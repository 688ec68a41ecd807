import ScopeSearch.Text.Utf8

/-!
# ScopeSearch.Line — a line of the input

A line keeps its bytes as they were read, line break included, and its number.
-/

namespace ScopeSearch

/-- A line of the input, with its number counted from zero. -/
structure Line where
  number : Nat
  bytes : Bytes
deriving DecidableEq, Repr

/-- A line as it is shown: its characters, with U+FFFD for what spells none. -/
def Line.display (line : Line) : String :=
  Text.lossy line.bytes

end ScopeSearch
