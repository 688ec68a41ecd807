import ScopeSearch.Proofs.Forest.Ancestry

/-!
# ScopeSearch.Proofs.Forest.Relabelling — changing what scopes bear

Reading markers heeds the delimiters of scopes and the links between them, and nothing else. A
`Relabelling` changes scopes and markers and leaves these alone, so it may come before reading or
after it:

* `apply_relabel` — reading changed markers in a changed forest gives the changed forest.
-/

namespace ScopeSearch

/-- A change of scopes, and of the markers that are put into them, that leaves delimiters and links
as they are. -/
structure Relabelling where
  scope : Scope → Scope
  marker : Marker → Marker
  delimiter_marker : ∀ m, (marker m).delimiter = m.delimiter
  delimiter_opener : ∀ s, (scope s).opener.delimiter = s.opener.delimiter
  parent : ∀ s, (scope s).parent = s.parent
  /-- A scope may be changed before or after it takes in another one. -/
  push : ∀ s id, scope { s with children := s.children.push id } =
    { scope s with children := (scope s).children.push id }
  /-- A scope may be changed before or after it is opened. -/
  opened : ∀ p m, scope (.opened p m) = .opened p (marker m)
  /-- A scope may be changed before or after it is closed. -/
  close : ∀ s m, scope { s with closer := some m } = { scope s with closer := some (marker m) }

namespace Forest

variable {f g : Forest} {r : Relabelling}

/-- Two forests are the same if they hold the same scopes under the same ids, and the same lists. -/
theorem ext_find? (hfind : ∀ id, f.find? id = g.find? id) (hopen : f.openStack = g.openStack)
    (hclosed : f.closed = g.closed) : f = g := by
  rcases f with ⟨scopes, openStack, closed⟩
  rcases g with ⟨scopes', openStack', closed'⟩
  cases hopen
  cases hclosed
  have hscopes : scopes = scopes' := Array.ext_getElem? hfind
  rw [hscopes]

/-- The forest with every scope changed. -/
def relabel (r : Relabelling) (f : Forest) : Forest :=
  { f with scopes := f.scopes.map r.scope }

@[simp] theorem relabel_empty (r : Relabelling) : Forest.empty.relabel r = Forest.empty := by
  simp [relabel, Forest.empty]

@[simp] theorem size_relabel (r : Relabelling) (f : Forest) : (f.relabel r).size = f.size := by
  simp [relabel, size]

@[simp] theorem openStack_relabel (r : Relabelling) (f : Forest) :
    (f.relabel r).openStack = f.openStack := rfl

@[simp] theorem closed_relabel (r : Relabelling) (f : Forest) :
    (f.relabel r).closed = f.closed := rfl

@[simp] theorem find?_relabel (r : Relabelling) (f : Forest) (id : ScopeId) :
    (f.relabel r).find? id = (f.find? id).map r.scope := by
  simp [relabel, find?]

@[simp] theorem parent?_relabel (r : Relabelling) (f : Forest) :
    (f.relabel r).parent? = f.parent? := by
  funext id
  unfold parent?
  rw [find?_relabel]
  cases f.find? id with
  | none => rfl
  | some s => exact r.parent s

theorem wayUp_relabel (r : Relabelling) (f : Forest) (n : Nat) (id : ScopeId) :
    (f.relabel r).wayUp n id = f.wayUp n id := by
  refine wayUp_congr (fun a => ?_) n id
  rw [find?_relabel]
  cases f.find? a with
  | none => rfl
  | some s => simp only [Option.map_some, r.parent]

/-- A test of changed scopes is a test of the scopes before the change. -/
theorem any_find?_relabel {q q' : Scope → Bool} (hq : ∀ s, q' (r.scope s) = q s) (f : Forest)
    (id : ScopeId) : ((f.relabel r).find? id).any q' = (f.find? id).any q := by
  rw [find?_relabel]
  cases f.find? id with
  | none => rfl
  | some s => exact hq s

theorem openScope_relabel (r : Relabelling) (f : Forest) (m : Marker) :
    (f.relabel r).openScope (r.marker m) = (f.openScope m).relabel r := by
  refine ext_find? (fun id => ?_) ?_ rfl
  · rw [find?_relabel, find?_openScope, find?_openScope, size_relabel, openStack_relabel,
      find?_relabel]
    split
    · rw [Option.map_some, r.opened]
    · split
      · -- the scope around the new one has taken it in
        cases f.find? id with
        | none => rfl
        | some s => simp only [Option.map_some, r.push]
      · rfl
  · simp [openScope]

theorem closeInnermost_relabel (r : Relabelling) (f : Forest) (m : Marker) :
    (f.relabel r).closeInnermost (r.marker m) = (f.closeInnermost m).relabel r := by
  refine ext_find? (fun id => ?_) ?_ (Array.toList_inj.1 ?_)
  · rw [find?_relabel, find?_closeInnermost, find?_closeInnermost, openStack_relabel,
      find?_relabel]
    split
    · cases f.find? id with
      | none => rfl
      | some s => simp only [Option.map_some, r.close]
    · rfl
  · simp
  · simp

theorem strayCause?_relabel (r : Relabelling) (f : Forest) (d : Delimiter) :
    (f.relabel r).strayCause? d = f.strayCause? d := by
  unfold strayCause? innermost?
  rw [openStack_relabel]
  cases f.openStack.head? with
  | none => rfl
  | some top =>
    rw [Option.bind_some, Option.bind_some, find?_relabel]
    cases f.find? top with
    | none => rfl
    | some s => simp only [Option.map_some, r.delimiter_opener]

theorem read_relabel (r : Relabelling) (f : Forest) (m : Marker) :
    ((f.relabel r).read (r.marker m)).1 = (f.read m).1.relabel r := by
  unfold read
  rw [r.delimiter_marker]
  split
  · exact openScope_relabel r f m
  · rw [strayCause?_relabel]
    split
    · rfl
    · exact closeInnermost_relabel r f m

/-- Reading changed markers in a changed forest gives the changed forest. -/
theorem apply_relabel (r : Relabelling) (f : Forest) (markers : List Marker) :
    (f.relabel r).apply (markers.map r.marker) = (f.apply markers).relabel r := by
  induction markers generalizing f with
  | nil => rfl
  | cons m rest ih => rw [List.map_cons, apply_cons, apply_cons, read_relabel, ih]

end Forest

end ScopeSearch
