/-!
# ScopeSearch.Text.Padding — filling a text up to a width

A text is padded only where an alignment is asked for: a bare width changes nothing. Widths count
characters, and of an odd gap around a centred text the larger half goes to the right.
-/

namespace ScopeSearch.Text

/-- Where a padded text stands in its field. -/
inductive Alignment where
  | left
  | right
  | center
deriving DecidableEq, Repr

/-- How a text is to be fitted into a field. -/
structure Padding where
  /-- Where the text stands; `none` leaves every text as it is. -/
  alignment : Option Alignment
  /-- The character that fills the field. -/
  fill : Char
  /-- The number of characters in the field. -/
  width : Nat

namespace Padding

/-- How much of a gap of `gap` characters goes to the left of the text. -/
def leftShare : Alignment → Nat → Nat
  | .left, _ => 0
  | .right, gap => gap
  | .center, gap => gap / 2

/-- The text fitted into the field; a text that fills the field already is left as it is. -/
def fit (p : Padding) (text : String) : String :=
  match p.alignment with
  | none => text
  | some alignment =>
    let gap := p.width - text.length
    let before := leftShare alignment gap
    String.ofList (List.replicate before p.fill) ++ text
      ++ String.ofList (List.replicate (gap - before) p.fill)

end Padding

end ScopeSearch.Text
