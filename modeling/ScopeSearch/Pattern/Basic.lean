import ScopeSearch.Pattern.CharSet
import ScopeSearch.Text.Utf8

/-!
# ScopeSearch.Pattern.Basic — what a pattern is made of

A pattern is built from texts, sets of characters or of single bytes, and tests of the place between
them, by sequence, choice and repetition. Of two ways to match, the earlier alternative wins, and a
repetition prefers more rounds if it is greedy and fewer if it is not; so choice is ordered.

`ofChars`, `ofBytes`, `sequence`, `choice` and `repeatPattern` are the ways to build patterns. They
bring what they build into a simple form: a set of one member is a text, texts that follow each
other are one text, and a choice between single characters is a set.
-/

namespace ScopeSearch

/-! ## Patterns -/

/-- Which side of the place the word characters have to stand on. -/
inductive WordEdge where
  /-- On exactly one side. -/
  | boundary
  /-- On both sides or on neither. -/
  | inside
  /-- After the place and not before it. -/
  | start
  /-- Before the place and not after it. -/
  | stop
  /-- Not before the place. -/
  | startHalf
  /-- Not after the place. -/
  | stopHalf
deriving DecidableEq, Repr

/-- A test of the place between two characters. -/
inductive Look where
  | textStart
  | textEnd
  | lineStart
  | lineEnd
  /-- A test of the characters around the place; `wide` if characters beyond ASCII count too. -/
  | word (edge : WordEdge) (wide : Bool)
deriving DecidableEq, Repr

/-- A pattern. -/
inductive Pattern where
  /-- Matches the empty text. -/
  | empty
  /-- Matches these bytes. -/
  | literal (text : Bytes)
  /-- Matches one whole character of the set. -/
  | char (set : CharSet)
  /-- Matches one byte of the set. -/
  | byte (set : CharSet)
  /-- Matches the empty text at places that pass the test. -/
  | look (test : Look)
  | seq (a b : Pattern)
  /-- Matches what either matches, and the first rather than the second. -/
  | alt (a b : Pattern)
  /-- Matches at least `min` and at most `max` rounds. -/
  | repeated (a : Pattern) (min : Nat) (max : Option Nat) (greedy : Bool)
  /-- Matches what `a` matches. Groups are numbered in the order in which they begin. -/
  | group (number : Nat) (a : Pattern)
deriving DecidableEq, Repr

namespace Pattern

/-- Why a text is not a pattern. -/
inductive Fault where
  | unclosedGroup
  | unopenedGroup
  | badGroupName
  | badFlags
  | lookAround
  | backReference
  | badEscape
  | unclosedClass
  | badClassItem
  | badClassRange
  | wideByteClass
  /-- It matches bytes that spell no text, where only text is to be matched. -/
  | brokenText
  | nothingToRepeat
  | badCount
  | tooDeep
  | tooLarge
deriving DecidableEq, Repr

/-! ## What a pattern matches -/

/-- The pattern may match the empty text. -/
def mayBeEmpty : Pattern → Bool
  | .empty | .look _ => true
  | .literal text => text.isEmpty
  | .char set | .byte set => set.ranges.isEmpty
  | .seq a b => a.mayBeEmpty && b.mayBeEmpty
  | .alt a b => a.mayBeEmpty || b.mayBeEmpty
  | .repeated a min _ _ => min = 0 || a.mayBeEmpty
  | .group _ a => a.mayBeEmpty

/-- The pattern matches nothing but the empty text. -/
def isEmptyOnly : Pattern → Bool
  | .empty | .look _ => true
  | .literal text => text.isEmpty
  | .char _ | .byte _ => false
  | .seq a b => a.isEmptyOnly && b.isEmptyOnly
  | .alt a b => a.isEmptyOnly && b.isEmptyOnly
  | .repeated a _ max _ => max = some 0 || a.isEmptyOnly
  | .group _ a => a.isEmptyOnly

/-! ## Single characters -/

/-- Matches one character of the set. -/
def ofChars (set : CharSet) : Pattern :=
  match set.onlyMember? with
  | some n => .literal (Text.utf8 (Char.ofNat n).toString)
  | none => .char set

/-- Matches one byte of the set. -/
def ofBytes (set : CharSet) : Pattern :=
  match set.onlyMember? with
  | some n => .literal [n.toUInt8]
  | none => .byte set

/-! ## Sequence -/

/-- The parts that the pattern matches one after the other. -/
def parts : Pattern → List Pattern
  | .empty => []
  | .seq a b => a.parts ++ b.parts
  | p => [p]

/-- The parts with one before them. Texts that follow each other are one text. -/
def joinText (p : Pattern) (rest : List Pattern) : List Pattern :=
  match p, rest with
  | .literal a, .literal b :: rest => .literal (a ++ b) :: rest
  | p, rest => p :: rest

/-- The pattern that has these parts. -/
def ofParts : List Pattern → Pattern
  | [] => .empty
  | [p] => p
  | p :: rest => .seq p (ofParts rest)

/-- The patterns one after the other. -/
def sequence (ps : List Pattern) : Pattern :=
  ofParts ((ps.flatMap parts).foldr joinText [])

/-! ## Choice -/

/-- The alternatives that the pattern chooses between, the first first. -/
def alternatives : Pattern → List Pattern
  | .alt a b => a.alternatives ++ b.alternatives
  | p => [p]

/-- The choice between these alternatives. -/
def ofAlternatives : List Pattern → Pattern
  | [] => .char ⟨[]⟩
  | [p] => p
  | p :: rest => .alt p (ofAlternatives rest)

/-- The code point, as a range, of the one character that the pattern spells. -/
def spelledChar? : Pattern → Option (List (Nat × Nat))
  | .literal text =>
    match Text.charAt? text with
    | some (c, width) => if width = text.length then some [(c.toNat, c.toNat)] else none
    | none => none
  | _ => none

/-- The one byte, as a range, that the pattern spells. -/
def spelledByte? : Pattern → Option (List (Nat × Nat))
  | .literal [b] => some [(b.toNat, b.toNat)]
  | _ => none

/-- The ranges of the characters that the pattern matches, if it is a set of them. -/
def charRanges? : Pattern → Option (List (Nat × Nat))
  | .char set => some set.ranges
  | .byte set => if set.isAscii then some set.ranges else none
  | _ => none

/-- The ranges of the bytes that the pattern matches, if it is a set of them. -/
def byteRanges? : Pattern → Option (List (Nat × Nat))
  | .byte set => some set.ranges
  | .char set => if set.isAscii then some set.ranges else none
  | _ => none

/-- The set of all that the alternatives match, if a view of each of them gives ranges. -/
def unionOf? (view : Pattern → Option (List (Nat × Nat))) (ps : List Pattern) : Option CharSet :=
  (ps.mapM view).map fun ranges => .ofRanges ranges.flatten

/-- The alternatives as one set, if all of them spell one character or all of them are sets. -/
def oneOf? (ps : List Pattern) : Option Pattern :=
  (unionOf? spelledChar? ps).map ofChars <|> (unionOf? spelledByte? ps).map ofBytes <|>
    (unionOf? charRanges? ps).map ofChars <|> (unionOf? byteRanges? ps).map ofBytes

/-- What two lists both begin with. -/
def commonStart {α : Type} [DecidableEq α] : List α → List α → List α
  | a :: as, b :: bs => if a = b then a :: commonStart as bs else []
  | _, _ => []

/-- The parts that all alternatives begin with, if each of them has several. -/
def sharedParts (ps : List Pattern) : List Pattern :=
  match ps.map parts with
  | first :: others =>
    if first.length ≥ 2 && others.all fun other => other.length ≥ 2 then
      others.foldl commonStart first
    else []
  | [] => []

/-- The choice between alternatives that begin differently. -/
def either (ps : List Pattern) : Pattern :=
  match ps.flatMap alternatives with
  | [p] => p
  | ps => (oneOf? ps).getD (ofAlternatives ps)

/-- The choice between patterns, the first first. What all alternatives begin with is matched before
the choice. -/
def choice (ps : List Pattern) : Pattern :=
  let ps := ps.flatMap alternatives
  match ps, sharedParts ps with
  | [p], _ => p
  | ps, [] => either ps
  | ps, shared =>
    sequence (shared ++ [either (ps.map fun p => sequence (p.parts.drop shared.length))])

/-! ## Repetition -/

/-- Repeats a pattern. A second round of the empty text adds nothing, so a pattern that matches
nothing else is repeated once at most. -/
def repeatPattern (a : Pattern) (min : Nat) (max : Option Nat) (greedy : Bool) : Pattern :=
  let (min, max) :=
    if a.isEmptyOnly then (Nat.min min 1, some ((max.getD 1).min 1)) else (min, max)
  if max = some 0 then .empty
  else if min = 1 && max = some 1 then a
  else .repeated a min max greedy

end Pattern

end ScopeSearch
