/-!
# ScopeSearch.Span — a stretch of a line
-/

namespace ScopeSearch

/-- A stretch of a line, by byte columns: from `start` up to `stop`, which is not part of it. -/
structure Span where
  start : Nat
  stop : Nat
deriving DecidableEq, Repr

end ScopeSearch
