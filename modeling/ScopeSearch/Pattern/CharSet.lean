import ScopeSearch.Text.CaseFold
import ScopeSearch.Text.CharClass

/-!
# ScopeSearch.Pattern.CharSet — sets of code points

A set is kept as inclusive ranges in increasing order, no two of which overlap or touch. The ends
of a range are characters; surrogates are none, and a range may pass over them. The same sets serve
for single bytes.

Ranges are joined by the numbers of their ends. So a range up to U+D7FF and a range from U+E000 stay
apart, although only surrogates lie between them, and `compl` finds a gap there.
-/

namespace ScopeSearch

/-- A set of code points. -/
structure CharSet where
  ranges : List (Nat × Nat)
deriving DecidableEq, Repr

namespace CharSet

/-- The code point belongs to the set. -/
def contains (s : CharSet) (n : Nat) : Bool :=
  Text.inRanges s.ranges n

/-! ## Construction -/

/-- The ranges with one before them. They stand by increasing lower ends, and are joined where they
overlap or touch. -/
def joinOnto (low high : Nat) : List (Nat × Nat) → List (Nat × Nat)
  | [] => [(low, high)]
  | (nextLow, nextHigh) :: rest =>
    if nextLow ≤ high + 1 then joinOnto low (Nat.max high nextHigh) rest
    else (low, high) :: joinOnto nextLow nextHigh rest

/-- The code points that lie in any of some ranges. -/
def ofRanges (pieces : List (Nat × Nat)) : CharSet :=
  match pieces.mergeSort fun a b => a.1 ≤ b.1 with
  | [] => ⟨[]⟩
  | (low, high) :: rest => ⟨joinOnto low high rest⟩

/-- The set of one code point. -/
def single (n : Nat) : CharSet :=
  ⟨[(n, n)]⟩

/-- Decimal digits of every script. -/
def digit : CharSet := ⟨Text.digitRanges⟩

/-- White space. -/
def space : CharSet := ⟨Text.spaceRanges⟩

/-- Word characters. -/
def word : CharSet := ⟨Text.wordRanges⟩

/-! ## Operations -/

/-- The last code point. -/
def lastChar : Nat := 0x10FFFF

/-- The last byte. -/
def lastByte : Nat := 0xFF

/-- The next character, beyond the surrogates if they come next. -/
def after (n : Nat) : Nat :=
  if n = 0xD7FF then 0xE000 else n + 1

/-- The character before, short of the surrogates if they come before. -/
def before (n : Nat) : Nat :=
  if n = 0xE000 then 0xD7FF else n - 1

/-- The gap from the end of one range to the start of the next. If only surrogates lie between them,
the two ends themselves are taken for the gap. -/
def gap (last first : Nat) : Nat × Nat :=
  if after last ≤ before first then (after last, before first) else (before first, after last)

/-- The gaps before, between and after ranges, of the numbers up to `top` that come after `last`. -/
def gapsAfter (top last : Nat) : List (Nat × Nat) → List (Nat × Nat)
  | [] => if last < top then [(after last, top)] else []
  | (first, nextLast) :: rest => gap last first :: gapsAfter top nextLast rest

/-- The code points up to `top` that are not in the set, by the gaps between its ranges. -/
def compl (s : CharSet) (top : Nat) : CharSet :=
  match s.ranges with
  | [] => ⟨[(0, top)]⟩
  | (first, last) :: rest =>
    ⟨(if 0 < first then [(0, before first)] else []) ++ gapsAfter top last rest⟩

/-- The members of either set. -/
def union (a b : CharSet) : CharSet :=
  ofRanges (a.ranges ++ b.ranges)

/-- What two ranges have in common. -/
def overlap? (a b : Nat × Nat) : Option (Nat × Nat) :=
  let low := Nat.max a.1 b.1
  let high := Nat.min a.2 b.2
  if low ≤ high then some (low, high) else none

/-- The members of both sets. -/
def inter (a b : CharSet) : CharSet :=
  ⟨a.ranges.flatMap fun range => b.ranges.filterMap (overlap? range)⟩

/-- What some ranges leave of the range from `low` to `high`. -/
def without (low high : Nat) : List (Nat × Nat) → List (Nat × Nat)
  | [] => [(low, high)]
  | (first, last) :: rest =>
    if last < low then without low high rest
    else if high < first then [(low, high)]
    else
      (if low < first then [(low, before first)] else []) ++
        if last < high then without (after last) high rest else []

/-- The members of the first set that are not in the second. -/
def diff (a b : CharSet) : CharSet :=
  ⟨a.ranges.flatMap fun (low, high) => without low high b.ranges⟩

/-- The members of exactly one of two sets. -/
def symmDiff (a b : CharSet) : CharSet :=
  (a.union b).diff (a.inter b)

/-- The members of the set, and all classes that have a member in it. -/
def withClasses (s : CharSet) (classes : List (List Nat)) : CharSet :=
  let met := classes.filter fun members => members.any s.contains
  ofRanges (s.ranges ++ met.flatten.map fun n => (n, n))

/-- The members and everything that differs from one in case alone. -/
def foldCase (s : CharSet) : CharSet :=
  s.withClasses Text.caseClasses

/-- The same for ASCII letters only. -/
def foldAsciiCase (s : CharSet) : CharSet :=
  s.withClasses Text.asciiCaseClasses

/-! ## Questions -/

/-- All members are ASCII characters. -/
def isAscii (s : CharSet) : Bool :=
  s.ranges.all fun (_, high) => high < 0x80

/-- The only member, if there is only one. -/
def onlyMember? (s : CharSet) : Option Nat :=
  match s.ranges with
  | [(low, high)] => if low = high then some low else none
  | _ => none

end CharSet

end ScopeSearch
