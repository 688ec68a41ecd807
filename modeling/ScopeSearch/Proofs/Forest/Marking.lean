import ScopeSearch.Proofs.Forest.Relabelling

/-!
# ScopeSearch.Proofs.Forest.Marking — marks and everything else

Marking a scope and the scopes around it sets their marks (`find?_mark`) and changes nothing else:
`unmarked` is a forest with all marks taken away, and

* `unmarked_mark` — marking does not show in it;
* `unmarked_apply` — reading markers neither sets nor heeds marks.
-/

namespace ScopeSearch

/-- The scope without its mark. -/
def Scope.unmarked (s : Scope) : Scope :=
  { s with matched := false }

namespace Forest

variable {f g : Forest} {a b id : Nat}

/-! ## What marking changes -/

/-- A mark changes no way up. -/
theorem wayUp_modify_matched (f : Forest) (id : ScopeId) :
    (f.modify id fun s => { s with matched := true }).wayUp = f.wayUp :=
  wayUp_modify f id fun _ => rfl

/-- Marking sets the marks of the scopes on its way up, and no others. -/
theorem find?_mark (f : Forest) (n : Nat) (id a : ScopeId) :
    (f.mark n id).1.find? a =
      (f.find? a).map fun s => { s with matched := s.matched || decide (a ∈ f.wayUp n id) } := by
  induction n generalizing f id with
  | zero => simp [mark, wayUp]
  | succ n ih =>
    cases hs : f.find? id with
    | none => simp [mark, wayUp, hs]
    | some s =>
      cases hp : s.parent with
      | none =>
        simp only [mark, wayUp, hs, hp, find?_modify, List.mem_singleton]
        split <;> simp_all
      | some p =>
        simp only [mark, wayUp, hs, hp, ih]
        -- the way up from the parent goes past the mark just set
        rw [wayUp_modify_matched, find?_modify]
        split <;> simp_all

theorem isMatched_of_size_le (ha : f.size ≤ a) : f.isMatched a = false := by
  cases hs : f.find? a with
  | none => simp [isMatched, hs]
  | some s => exact absurd (lt_size_of_find? hs) (Nat.not_lt.2 ha)

/-- After marking, the scopes on the way up are marked as well. -/
theorem isMatched_mark (f : Forest) (n : Nat) (id a : ScopeId) :
    (f.mark n id).1.isMatched a = (f.isMatched a || decide (a ∈ f.wayUp n id)) := by
  unfold isMatched
  rw [find?_mark]
  cases hs : f.find? a with
  | some s => rfl
  | none =>
    -- an id beyond the forest is on no way up
    have hnot : a ∉ f.wayUp n id := by
      intro ha
      obtain ⟨s, hs'⟩ := exists_find? (lt_size_of_mem_wayUp ha)
      rw [hs] at hs'
      cases hs'
    simp [hnot]

@[simp] theorem openStack_mark (f : Forest) (n : Nat) (id : ScopeId) :
    (f.mark n id).1.openStack = f.openStack := by
  induction n generalizing f id with
  | zero => rfl
  | succ n ih =>
    unfold mark
    split
    · rfl
    · split
      · rfl
      · exact ih _ _

@[simp] theorem closed_mark (f : Forest) (n : Nat) (id : ScopeId) :
    (f.mark n id).1.closed = f.closed := by
  induction n generalizing f id with
  | zero => rfl
  | succ n ih =>
    unfold mark
    split
    · rfl
    · split
      · rfl
      · exact ih _ _

/-! ## Forests without their marks -/

/-- The forest with every mark taken away. -/
def unmarked (f : Forest) : Forest :=
  { f with scopes := f.scopes.map Scope.unmarked }

/-- Taking marks away leaves delimiters and links as they are. -/
def unmarking : Relabelling where
  scope := Scope.unmarked
  marker := fun m => m
  delimiter_marker := fun _ => rfl
  delimiter_opener := fun _ => rfl
  parent := fun _ => rfl
  push := fun _ _ => rfl
  opened := fun _ _ => rfl
  close := fun _ _ => rfl

@[simp] theorem unmarked_empty : Forest.empty.unmarked = Forest.empty :=
  relabel_empty unmarking

@[simp] theorem size_unmarked (f : Forest) : f.unmarked.size = f.size :=
  size_relabel unmarking f

@[simp] theorem openStack_unmarked (f : Forest) : f.unmarked.openStack = f.openStack := rfl

@[simp] theorem closed_unmarked (f : Forest) : f.unmarked.closed = f.closed := rfl

@[simp] theorem find?_unmarked (f : Forest) (id : ScopeId) :
    f.unmarked.find? id = (f.find? id).map Scope.unmarked :=
  find?_relabel unmarking f id

@[simp] theorem parent?_unmarked (f : Forest) : f.unmarked.parent? = f.parent? :=
  parent?_relabel unmarking f

@[simp] theorem contains_unmarked (f : Forest) (line : Nat) (span : Span) :
    f.unmarked.contains line span = f.contains line span := by
  funext id
  exact any_find?_relabel (r := unmarking) (fun _ => rfl) f id

@[simp] theorem innermostContaining?_unmarked (f : Forest) (line : Nat) (span : Span) :
    f.unmarked.innermostContaining? line span = f.innermostContaining? line span := by
  simp [innermostContaining?]

@[simp] theorem unmarked_unmarked (f : Forest) : f.unmarked.unmarked = f.unmarked := by
  have htwice : Scope.unmarked ∘ Scope.unmarked = Scope.unmarked := rfl
  simp [unmarked, htwice]

theorem wayUp_unmarked (f : Forest) (n : Nat) (id : ScopeId) :
    f.unmarked.wayUp n id = f.wayUp n id :=
  wayUp_relabel unmarking f n id

theorem lineage_unmarked (f : Forest) (id : ScopeId) : f.unmarked.lineage id = f.lineage id := by
  unfold lineage
  rw [size_unmarked, wayUp_unmarked]

/-- Scopes are reported the same with and without their marks. -/
theorem reports_unmarked (f : Forest) (ids : List ScopeId) :
    f.unmarked.reports ids = f.reports ids := by
  induction ids with
  | nil => rfl
  | cons id rest ih =>
    unfold reports at ih ⊢
    rw [List.filterMap_cons, List.filterMap_cons, find?_unmarked]
    cases f.find? id with
    | none => exact ih
    | some s => exact congrArg (s.report :: ·) ih

/-! ## What marks do not change -/

/-- Marking takes away and adds nothing but marks. -/
theorem unmarked_mark (f : Forest) (n : Nat) (id : ScopeId) :
    (f.mark n id).1.unmarked = f.unmarked := by
  refine ext_find? (fun a => ?_) ?_ ?_
  · rw [find?_unmarked, find?_unmarked, find?_mark]
    cases f.find? a <;> rfl
  · simp
  · simp

/-- Reading markers neither sets nor heeds marks. -/
theorem unmarked_apply (f : Forest) (markers : List Marker) :
    (f.apply markers).unmarked = f.unmarked.apply markers := by
  have hsame : markers.map unmarking.marker = markers := List.map_id' markers
  have happly := apply_relabel unmarking f markers
  rw [hsame] at happly
  exact happly.symm

/-- What reading does not open has the mark it had; what it opens has none. -/
theorem isMatched_read (f : Forest) (m : Marker) (a : ScopeId) :
    (f.read m).1.isMatched a = f.isMatched a := by
  rcases f.read_cases m with ⟨-, hread⟩ | ⟨-, hread⟩ | ⟨-, hread, -⟩
  · rw [hread]
    by_cases ha : a = f.size
    · -- the new scope has no mark, and its id had none before
      have hnew : (f.openScope m).isMatched a = false := by
        simp [isMatched, find?_openScope, ha, Scope.opened]
      rw [hnew, isMatched_of_size_le (Nat.le_of_eq ha.symm)]
    · unfold isMatched
      rw [find?_openScope, if_neg ha]
      split
      · cases f.find? a <;> rfl
      · rfl
  · rw [hread]
  · rw [hread]
    unfold isMatched
    rw [find?_closeInnermost]
    split
    · cases f.find? a <;> rfl
    · rfl

theorem isMatched_apply (f : Forest) (markers : List Marker) (a : ScopeId) :
    (f.apply markers).isMatched a = f.isMatched a := by
  induction markers generalizing f with
  | nil => rfl
  | cons m rest ih => rw [apply_cons, ih, isMatched_read]

/-! ## Forests that differ in their marks alone -/

section SameUnmarked

variable (h : g.unmarked = f.unmarked)
include h

theorem size_eq_of_unmarked_eq : g.size = f.size := by
  rw [← size_unmarked g, h, size_unmarked]

theorem parent?_eq_of_unmarked_eq : g.parent? = f.parent? := by
  rw [← parent?_unmarked g, h, parent?_unmarked]

theorem openStack_eq_of_unmarked_eq : g.openStack = f.openStack := by
  rw [← openStack_unmarked g, h, openStack_unmarked]

theorem closed_eq_of_unmarked_eq : g.closed = f.closed := by
  rw [← closed_unmarked g, h, closed_unmarked]

theorem find?_of_unmarked_eq {t : Scope} (ht : g.find? id = some t) :
    ∃ s, f.find? id = some s ∧
      s.children = t.children ∧ s.opener = t.opener ∧ s.closer = t.closer := by
  have hmap : (f.find? id).map Scope.unmarked = some t.unmarked := by
    rw [← find?_unmarked, ← h, find?_unmarked, ht]
    rfl
  obtain ⟨s, hs, hst⟩ := Option.map_eq_some_iff.1 hmap
  simp only [Scope.unmarked, Scope.mk.injEq] at hst
  exact ⟨s, hs, hst.2.1, hst.2.2.1, hst.2.2.2.1⟩

theorem reports_eq_of_unmarked_eq : g.reports = f.reports := by
  funext ids
  rw [← reports_unmarked g, h, reports_unmarked]

theorem strayCause?_eq_of_unmarked_eq : g.strayCause? = f.strayCause? := by
  funext d
  have hg := strayCause?_relabel unmarking g d
  have hf := strayCause?_relabel unmarking f d
  exact hg.symm.trans ((congrArg (strayCause? · d) h).trans hf)

/-- Two forests that differ in their marks alone ignore the same closers. -/
theorem strays_eq_of_unmarked_eq (markers : List Marker) : g.strays markers = f.strays markers := by
  induction markers generalizing f g with
  | nil => rfl
  | cons m rest ih =>
    have hread : (g.read m).1.unmarked = (f.read m).1.unmarked := by
      have happly : (g.apply [m]).unmarked = (f.apply [m]).unmarked := by
        rw [unmarked_apply, unmarked_apply, h]
      exact happly
    rw [strays_cons, strays_cons, stray_read, stray_read, strayCause?_eq_of_unmarked_eq h, ih hread]

end SameUnmarked

end Forest

end ScopeSearch
