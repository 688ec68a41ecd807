import ScopeSearch.Pattern.Match
import ScopeSearch.Run

/-!
# ScopeSearch.Failure — why a search fails

Only two things fail a search: its pattern is none, or its text cannot be read or its reports cannot
be written. Delimiters that do not match are no failure.
-/

namespace ScopeSearch

/-- Why a search fails. -/
inductive Failure where
  | pattern (fault : Pattern.Fault)
  | io (fault : IoFault)
deriving DecidableEq, Repr

/-- The words for a failure. -/
def Failure.message : Failure → String
  | .pattern _ => "invalid pattern"
  | .io _ => "i/o error"

end ScopeSearch
