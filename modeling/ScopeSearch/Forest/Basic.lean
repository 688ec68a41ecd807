import ScopeSearch.Scope

/-!
# ScopeSearch.Forest.Basic — the scopes of the input read so far

A forest holds the scopes that have been opened, each under its id, together with two lists of ids:

* the stack of the scopes that are still open, each inside the one below it;
* the closed scopes that wait to be flushed, in the order they closed, so that a scope stands
  before every scope around it.

`innermostContaining?` finds the tightest scope around a span.
-/

namespace ScopeSearch

/-- The scopes opened so far, which of them are open, and which closed ones wait to be flushed. -/
structure Forest where
  /-- The scopes by id. -/
  scopes : Array Scope
  /-- The open scopes, innermost first. -/
  openStack : List ScopeId
  /-- The closed scopes that have not been flushed, in the order they closed. -/
  closed : Array ScopeId
deriving DecidableEq, Repr

/-- An id that names no scope of a forest with `size` scopes. -/
structure UnknownScope where
  id : ScopeId
  size : Nat
deriving DecidableEq, Repr

/-- The words for an id that names no scope. -/
def UnknownScope.message (e : UnknownScope) : String :=
  "index out of bounds: the len is " ++ e.size.repr ++ " but the index is " ++ e.id.repr

namespace Forest

/-- The forest without scopes. -/
def empty : Forest := ⟨#[], [], #[]⟩

instance : Inhabited Forest := ⟨empty⟩

/-- The number of scopes that the forest holds. -/
def size (f : Forest) : Nat :=
  f.scopes.size

/-- The number of open scopes. -/
def depth (f : Forest) : Nat :=
  f.openStack.length

/-- The open scopes, outermost first. -/
def openIds (f : Forest) : List ScopeId :=
  f.openStack.reverse

/-! ## Looking scopes up -/

/-- The scope of a given id, if the forest holds one. -/
def find? (f : Forest) (id : ScopeId) : Option Scope :=
  f.scopes[id]?

theorem find?_isSome_iff (f : Forest) (id : ScopeId) : (f.find? id).isSome ↔ id < f.size := by
  simp [find?, size]

/-- The scope of a given id, which is an error if the forest holds none. -/
def get (f : Forest) (id : ScopeId) : Except UnknownScope Scope :=
  match f.find? id with
  | some s => .ok s
  | none => .error ⟨id, f.size⟩

theorem get_eq_ok_iff {f : Forest} {id : ScopeId} {s : Scope} :
    f.get id = .ok s ↔ f.find? id = some s := by
  unfold get
  cases f.find? id <;> simp

/-- Looking up fails for the ids beyond the forest, and says so. -/
theorem get_eq_error_iff {f : Forest} {id : ScopeId} {e : UnknownScope} :
    f.get id = .error e ↔ f.size ≤ id ∧ e = ⟨id, f.size⟩ := by
  unfold get
  cases h : f.find? id with
  | none =>
    have : f.size ≤ id := by simpa [find?, size] using h
    simp [this, eq_comm]
  | some s =>
    have : id < f.size := (f.find?_isSome_iff id).1 (by simp [h])
    simp [Nat.not_le.2 this]

/-- The scope directly around the scope of a given id. -/
def parent? (f : Forest) (id : ScopeId) : Option ScopeId :=
  (f.find? id).bind Scope.parent

/-- The scope of a given id is marked for output. -/
def isMatched (f : Forest) (id : ScopeId) : Bool :=
  (f.find? id).any Scope.matched

/-- The scope of a given id has been closed. -/
def isClosed (f : Forest) (id : ScopeId) : Bool :=
  (f.find? id).any fun s => !s.isOpen

/-- The innermost open scope. -/
def innermost? (f : Forest) : Option Scope :=
  f.openStack.head?.bind f.find?

/-! ## The tightest scope around a span -/

/-- The scope of a given id contains the span on line `line`. -/
def contains (f : Forest) (line : Nat) (span : Span) (id : ScopeId) : Bool :=
  (f.find? id).any fun s => s.Contains line span

/-- The first scope that contains the span, of the closed ones in the order they closed and then of
the open ones from the innermost outwards: the tightest of all. -/
def innermostContaining? (f : Forest) (line : Nat) (span : Span) : Option ScopeId :=
  (f.closed.toList ++ f.openStack).find? (f.contains line span)

end Forest

end ScopeSearch
