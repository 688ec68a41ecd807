import ScopeSearch.Forest.Reading

/-!
# ScopeSearch.Forest.Marking — marking a scope and the scopes around it

`mark n id` marks the scope `id` and the scopes around it, at most `n` in all. `lineage` lists the
whole way up. A parent opens before its children, so its id is smaller and every way up ends.
-/

namespace ScopeSearch.Forest

/-- The first `n` scopes on the way up from a given one, itself the first. -/
def wayUp (f : Forest) : Nat → ScopeId → List ScopeId
  | 0, _ => []
  | n + 1, id =>
    match f.find? id with
    | none => []
    | some s =>
      match s.parent with
      | none => [id]
      | some p => id :: f.wayUp n p

/-- A scope, the scope around it, and so on to the outermost. -/
def lineage (f : Forest) (id : ScopeId) : List ScopeId :=
  f.wayUp f.size id

/-- Marks a scope and the scopes around it, at most `n` in all, and says how many it visited. The
way up ends early at the outermost scope. -/
def mark (f : Forest) : Nat → ScopeId → Forest × Nat
  | 0, _ => (f, 0)
  | n + 1, id =>
    match f.find? id with
    | none => (f, 0)
    | some s =>
      let here := f.modify id fun s => { s with matched := true }
      match s.parent with
      | none => (here, 1)
      | some p =>
        let (marked, visited) := here.mark n p
        (marked, visited + 1)

/-- Marks like `mark`, and refuses an id that names no scope, unless there is nothing to mark. -/
def markKnown (f : Forest) (n : Nat) (id : ScopeId) : Except UnknownScope (Forest × Nat) :=
  if n = 0 then .ok (f, 0)
  else (f.get id).map fun _ => f.mark n id

end ScopeSearch.Forest
