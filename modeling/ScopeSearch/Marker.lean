import ScopeSearch.Delimiter
import ScopeSearch.Position

/-!
# ScopeSearch.Marker — the delimiters that stand on a line

`Marker.onLine` finds every place on a line where a delimiter stands, from left to right. Two
delimiters may overlap: `/*/` holds both `/*` and `*/`. No two begin at one column, so the order
is that of the columns.
-/

namespace ScopeSearch

/-- A delimiter that stands at a place. -/
structure Marker where
  delimiter : Delimiter
  position : Position
deriving DecidableEq, Repr

namespace Marker

/-- The delimiter that a text begins with. -/
def headDelimiter? (text : Bytes) : Option Delimiter :=
  Delimiter.all.find? fun d => d.bytes.isPrefixOf text

/-- The delimiters that stand in `text`, which is what follows column `column` of line `number`. -/
def fromColumn (number : Nat) : Nat → Bytes → List Marker
  | _, [] => []
  | column, b :: rest =>
    let later := fromColumn number (column + 1) rest
    match headDelimiter? (b :: rest) with
    | some d => ⟨d, ⟨number, column⟩⟩ :: later
    | none => later

/-- Every delimiter on a line, in the order of their columns; `number` is the line's number. -/
def onLine (text : Bytes) (number : Nat) : List Marker :=
  fromColumn number 0 text

end Marker

end ScopeSearch
