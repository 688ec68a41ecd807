import ScopeSearch.Span
import ScopeSearch.Text.Utf8

/-!
# ScopeSearch.Matcher — finding the first match on a line

A matcher is asked once for each line and answers the first match on it. The number of the question
is part of the question, so that an answer may depend on it; `ofLine` makes the matchers that look
at the line alone.
-/

namespace ScopeSearch

/-- Answers the question of a given number: where is the first match on this line? -/
abbrev Matcher := Nat → Bytes → Option Span

/-- The first column, counted from `column`, at which `needle` stands in `text`. -/
def firstOccurrence? (needle : Bytes) (column : Nat) : Bytes → Option Nat
  | [] => if needle.isEmpty then some column else none
  | b :: rest =>
    if needle.isPrefixOf (b :: rest) then some column
    else firstOccurrence? needle (column + 1) rest

namespace Matcher

/-- The matcher that looks at the line alone. -/
def ofLine (find : Bytes → Option Span) : Matcher :=
  fun _ text => find text

/-- Finds the first occurrence of a byte text; the empty text stands at the start of every line. -/
def literal (needle : Bytes) : Matcher :=
  ofLine fun text =>
    (firstOccurrence? needle 0 text).map fun start => ⟨start, start + needle.length⟩

/-- No span that the matcher answers stops before it starts. -/
def Forward (matcher : Matcher) : Prop :=
  ∀ ⦃question text span⦄, matcher question text = some span → span.start ≤ span.stop

theorem forward_literal (needle : Bytes) : (literal needle).Forward := by
  intro question text span h
  obtain ⟨start, -, rfl⟩ := Option.map_eq_some_iff.1 h
  exact Nat.le_add_right start needle.length

/-- Answers from a list, whatever the line, and finds nothing once the list has run out. -/
def scripted (answers : List (Option Span)) : Matcher :=
  fun question _ => (answers[question]?).join

end Matcher

end ScopeSearch
