import ScopeSearch.Pattern.Basic
import ScopeSearch.Pattern.Room

/-!
# ScopeSearch.Pattern.Size — how much room a pattern takes

A pattern is refused if it takes too much room, and this is how its room is measured. A search may
read a text in both directions, so that a pattern needs two machines that read single bytes: one
that reads forward and notes where numbered groups begin and end, and one that reads backward. Each
of them has to fit into `sizeLimit` by itself.
-/

namespace ScopeSearch

/-! ## Choices between texts -/

/-- The bytes that the texts begin with, in the order of their first occurrences, each with what the
texts that begin with it have after it. -/
def branchTexts (texts : List Bytes) : List (List Bytes) :=
  (texts.filterMap List.head?).eraseDups.map fun b =>
    texts.filterMap fun text => if text.head? = some b then some text.tail else none

/-- Lays out a state that tells apart so many bytes. -/
def Room.addStep (r : Room) (bytes : Nat) : Room :=
  if bytes = 1 then r.addStates 1 else r.addSparse bytes

/-- Lays out a tree of texts, in which texts that begin alike share what they begin with. A text
that ends where others go on parts those before it from those after it, which share nothing. `depth`
is at least the length of the longest text. -/
def layOutTree : (depth : Nat) → List Bytes → Room → Room
  | 0, _, r => r
  | depth + 1, texts, r =>
    if texts.all List.isEmpty then r
    else
      let ends := (texts.dropWhile List.isEmpty).countP List.isEmpty +
        if texts.head?.any List.isEmpty then 1 else 0
      let runs := (texts.splitBy fun a b => !a.isEmpty && !b.isEmpty).filter fun run =>
        !run.all List.isEmpty
      let addRun (r : Room) (run : List Bytes) : Room :=
        let branches := branchTexts run
        branches.foldl (fun r texts => layOutTree depth texts r) (r.addStep branches.length)
      runs.foldl addRun (r.addBranch (runs.length + ends))

/-- Lays out a choice between texts. -/
def layOutTexts (d : Direction) (texts : List Bytes) (r : Room) : Room :=
  let depth := (texts.map List.length).foldl Nat.max 0
  let texts := match d with
    | .forward => texts
    | .backward => texts.map List.reverse
  layOutTree depth texts (r.addStates 1)

/-! ## Patterns -/

namespace Pattern

/-- The text that the pattern matches, if it matches one text. -/
def literal? : Pattern → Option Bytes
  | .literal text => some text
  | _ => none

/-- The texts that the pattern chooses between, if it chooses between texts. -/
def texts? (p : Pattern) : Option (List Bytes) :=
  p.alternatives.mapM literal?

/-- Lays out a repetition. -/
def layOutRepeated (round : Room → Room) (mayBeEmpty : Bool) (min : Nat) (max : Option Nat)
    (r : Room) : Room :=
  match max with
  | none =>
    if min > 0 then (r.addRounds round min).addBranch 2
    else if mayBeEmpty then (((round r).addBranch 2).addBranch 2).addStates 1
    else round (r.addBranch 2)
  | some max =>
    if min = 0 && max = 1 then (round (r.addBranch 2)).addStates 1
    else if min = max then r.addRounds round min
    else
      let r := if min = 0 then r.addStates 1 else r.addRounds round min
      (r.addStates 1).addRounds (fun r => round (r.addBranch 2)) (max - min)

/-- Lays out the way to an alternative that comes after `before` others. The branch between the
alternatives, and the state where they meet again, come after the second of them. -/
def addAlternative (before : Nat) (r : Room) : Room :=
  if before = 1 then ((r.addWays 1).addBranch 0).addStates 1 else r.addWays 1

/-- Lays out a pattern, and if it is an alternative of a choice, which comes after so many others,
the way to it. -/
def layOut (d : Direction) : Pattern → (before : Option Nat) → Room → Room
  | .alt a b, some before, r =>
    b.layOut d (some (before + a.alternatives.length)) (a.layOut d (some before) r)
  | .alt a b, none, r =>
    match texts? (.alt a b) with
    | some texts => layOutTexts d texts r
    | none => b.layOut d (some a.alternatives.length) (a.layOut d (some 0) r)
  | .empty, before, r => asAlternative before (r.addStates 1)
  | .literal text, before, r => asAlternative before (r.addStates text.length)
  | .char set, before, r =>
    asAlternative before (if set.isAscii then set.layOutBytes r else set.layOutChars d r)
  | .byte set, before, r => asAlternative before (set.layOutBytes r)
  | .look _, before, r => asAlternative before (r.addStates 1)
  | .seq a b, before, r =>
    asAlternative before <|
      match d with
      | .forward => b.layOut d none (a.layOut d none r)
      | .backward => a.layOut d none (b.layOut d none r)
  | .repeated a min max _, before, r =>
    asAlternative before (layOutRepeated (a.layOut d none) a.mayBeEmpty min max r)
  | .group _ a, before, r =>
    asAlternative before <|
      match d with
      | .forward => (a.layOut d none (r.addStates 1)).addStates 1
      | .backward => a.layOut d none r
where
  /-- Lays out the way to what has been laid out, if it is an alternative. -/
  asAlternative (before : Option Nat) (r : Room) : Room :=
    match before with
    | some before => addAlternative before r
    | none => r

/-- The pattern matches at the start of the text alone. -/
def isBoundToStart : Pattern → Bool
  | .look test => test = .textStart
  | .seq a b => a.isBoundToStart || (a.isEmptyOnly && b.isBoundToStart)
  | .alt a b => a.isBoundToStart && b.isBoundToStart
  | .repeated a min _ _ => min > 0 && a.isBoundToStart
  | .group _ a => a.isBoundToStart
  | _ => false

/-- The pattern matches at the end of the text alone. -/
def isBoundToEnd : Pattern → Bool
  | .look test => test = .textEnd
  | .seq a b => b.isBoundToEnd || (b.isEmptyOnly && a.isBoundToEnd)
  | .alt a b => a.isBoundToEnd && b.isBoundToEnd
  | .repeated a min _ _ => min > 0 && a.isBoundToEnd
  | .group _ a => a.isBoundToEnd
  | _ => false

/-- Lays out what a machine begins with: it passes over any bytes to where a match begins, unless
that place is known. -/
def layOutLead (bound : Bool) (r : Room) : Room :=
  if bound then r.addStates 1 else ((r.addBranch 2).addStates 1).addSparse 1

/-- The machine for a whole pattern. A match is complete at a state of its own, and the forward
machine notes where it begins and ends, as if the whole were a group. -/
def machine (d : Direction) (p : Pattern) : Room :=
  let bound := match d with
    | .forward => p.isBoundToStart
    | .backward => p.isBoundToEnd
  ((group 0 p).layOut d none (layOutLead bound .empty)).addStates 1

/-- Both machines for the pattern fit. -/
def fits (p : Pattern) : Bool :=
  !(p.machine .forward).isOverfull && !(p.machine .backward).isOverfull

end Pattern

end ScopeSearch
