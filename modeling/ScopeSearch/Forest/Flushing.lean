import ScopeSearch.Forest.Marking

/-!
# ScopeSearch.Forest.Flushing — reports, and letting scopes go

* `consolidate` folds each marked closed scope into the outermost scope that an unbroken line of
  marked scopes leads up to, and keeps each closed result once, at its first place.
* `flushClosed` turns those into reports and forgets which closed scopes were waiting.
* `openReports` are the marked scopes that never closed.
* `release` drops every scope, once none is open and none is waiting.
-/

namespace ScopeSearch.Forest

/-- Goes up from a scope as long as the scope around it is marked, over at most `steps` steps. -/
def climb (f : Forest) : Nat → ScopeId → ScopeId
  | 0, id => id
  | steps + 1, id =>
    match f.parent? id with
    | none => id
    | some p => if f.isMatched p then f.climb steps p else id

/-- The outermost scope that an unbroken line of marked scopes leads up to from a given one. A way
up has fewer steps than the forest has scopes. -/
def outermostMatched (f : Forest) (id : ScopeId) : ScopeId :=
  f.climb f.size id

/-- The scopes that the waiting marked scopes are reported as, in the order of the first that each
stands for. A scope that is still open is left out: it is reported when the input ends. -/
def consolidate (f : Forest) : List ScopeId :=
  (((f.closed.toList.filter f.isMatched).map f.outermostMatched).filter f.isClosed).eraseDups

/-- The reports of the scopes given. -/
def reports (f : Forest) (ids : List ScopeId) : List Report :=
  (ids.filterMap f.find?).map Scope.report

/-- Reports the waiting scopes and forgets that they were waiting. -/
def flushClosed (f : Forest) : List Report × Forest :=
  (f.reports f.consolidate, { f with closed := #[] })

/-- Reports of the marked scopes that are still open, outermost first. -/
def openReports (f : Forest) : List Report :=
  f.reports (f.openIds.filter f.isMatched)

/-- Drops every scope if none is open and none is waiting; else nothing changes. -/
def release (f : Forest) : Forest :=
  if f.openStack.isEmpty && f.closed.isEmpty then { f with scopes := #[] } else f

end ScopeSearch.Forest
