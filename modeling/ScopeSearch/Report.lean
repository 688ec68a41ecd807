import ScopeSearch.Position

/-!
# ScopeSearch.Report — the ranges that a search prints

A report is the range from an opening delimiter to the delimiter that closes it. A range whose
scope never closed runs to the end of the input.

* `Report.StrictlyContains` is nesting of ranges.
* `violation?` looks through a list of reports for the first pair that is nested, or the first
  report that does not end after its start.
-/

namespace ScopeSearch

/-- A printed range: where its scope opens, and where it closes if it does. -/
structure Report where
  start : Position
  stop : Option Position
deriving DecidableEq, Repr

namespace Report

/-- The range has no end: its scope was still open when the input ended. -/
def isUnterminated (r : Report) : Bool :=
  r.stop.isNone

/-- The range has an end, and the end does not come after the start. -/
def EndsTooEarly (r : Report) : Prop :=
  ∃ stop ∈ r.stop, stop ≤ r.start

instance (r : Report) : Decidable r.EndsTooEarly :=
  inferInstanceAs (Decidable (∃ stop ∈ r.stop, stop ≤ r.start))

/-- The first end comes before the second; an end that is never reached comes after every place. -/
def StopsBefore : Option Position → Option Position → Prop
  | _, none => True
  | none, some _ => False
  | some p, some q => p < q

instance : ∀ a b, Decidable (StopsBefore a b)
  | _, none => isTrue trivial
  | none, some _ => isFalse id
  | some p, some q => inferInstanceAs (Decidable (p < q))

/-- The range `inner` starts after `outer` and stops before it. A range without an end contains
every range that starts after it, and only such a range contains it. -/
def StrictlyContains (outer inner : Report) : Prop :=
  outer.start < inner.start ∧ StopsBefore inner.stop outer.stop

instance (outer inner : Report) : Decidable (outer.StrictlyContains inner) :=
  inferInstanceAs (Decidable (_ ∧ _))

/-- One of the two ranges lies strictly inside the other. -/
def Nested (a b : Report) : Prop :=
  a.StrictlyContains b ∨ b.StrictlyContains a

instance (a b : Report) : Decidable (a.Nested b) :=
  inferInstanceAs (Decidable (_ ∨ _))

/-- A range as it is printed: its two ends with a dash between them, and a star for no end. -/
def text (r : Report) : String :=
  r.start.text ++ " - " ++ (r.stop.map Position.text).getD "*"

/-- A range as it is written out: its text and a line break. -/
def lineText (r : Report) : String :=
  r.text ++ "\n"

/-- The first pair of reports that a list of disjoint ranges cannot hold, by the place of its first
member and then of its second: a report that ends too early, paired with itself, or two nested
reports. -/
def violation? : List Report → Option (Report × Report)
  | [] => none
  | r :: rest =>
    if r.EndsTooEarly then some (r, r)
    else
      match rest.find? fun other => r.Nested other with
      | some other => some (r, other)
      | none => violation? rest

end Report

end ScopeSearch
