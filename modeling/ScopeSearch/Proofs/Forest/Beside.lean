import Mathlib.Data.List.Basic
import ScopeSearch.Proofs.Forest.Consolidation

/-!
# ScopeSearch.Proofs.Forest.Beside — a forest put after another

`base.beside f` holds the scopes of `base` and after them those of `f`, under ids that are raised by
the size of `base`. What happens to it happens to `f` alone, and what comes of it is what comes of
`base`, followed by what comes of `f`:

* `apply_beside`, `mark_beside` — reading and marking pass `base` by;
* `innermostContaining?_beside` — so does looking for the scope around a span that no scope of
  `base` contains;
* `reports_consolidate_beside`, `openReports_beside` — the reports of the two stand one after the
  other.
-/

namespace ScopeSearch

/-- The scope with the ids in it raised by `n`. -/
def Scope.raised (n : Nat) (s : Scope) : Scope :=
  { s with parent := s.parent.map (· + n), children := s.children.map (· + n) }

namespace Forest

variable {base f : Forest} {id p : Nat} {m : Marker}

/-- The scopes of `base`, none of which is looked upon as open, and after them those of `f`. -/
def beside (base f : Forest) : Forest where
  scopes := base.scopes ++ f.scopes.map (Scope.raised base.size)
  openStack := f.openStack.map (· + base.size)
  closed := base.closed ++ f.closed.map (· + base.size)

/-! ## Lists -/

/-- Renaming without clashes leaves the repetitions as they are. -/
theorem eraseDups_map {α β : Type} [BEq α] [LawfulBEq α] [BEq β] [LawfulBEq β] {g : α → β}
    (hg : ∀ a b, g a = g b → a = b) (l : List α) : (l.map g).eraseDups = l.eraseDups.map g := by
  induction l using List.reverseRecOn with
  | nil => rfl
  | append_singleton l a ih =>
    have hmem : (l.map g).contains (g a) = l.contains a := by
      rw [Bool.eq_iff_iff, List.contains_iff_mem, List.contains_iff_mem, List.mem_map]
      constructor
      · rintro ⟨b, hb, hba⟩
        exact hg b a hba ▸ hb
      · exact fun ha => ⟨a, ha, rfl⟩
    rw [List.map_append, List.map_singleton, eraseDups_concat, eraseDups_concat, hmem, ih]
    split
    · rfl
    · simp

/-! ## The scopes of the two -/

@[simp] theorem size_beside (base f : Forest) : (base.beside f).size = base.size + f.size := by
  simp [beside, size]

/-- Nothing beside a forest without open scopes leaves it as it is. -/
theorem beside_empty (h : base.openStack = []) : base.beside Forest.empty = base := by
  rcases base with ⟨scopes, openStack, closed⟩
  cases h
  simp [beside, Forest.empty]

theorem find?_beside_left (hid : id < base.size) : (base.beside f).find? id = base.find? id := by
  unfold beside find?
  rw [Array.getElem?_append_left hid]

theorem find?_beside_right (base f : Forest) (id : Nat) :
    (base.beside f).find? (id + base.size) = (f.find? id).map (Scope.raised base.size) := by
  have hle : base.scopes.size ≤ id + base.size := Nat.le_add_left _ _
  have hsub : id + base.size - base.scopes.size = id := Nat.add_sub_cancel id base.size
  unfold beside find?
  rw [Array.getElem?_append_right hle, hsub, Array.getElem?_map]

/-- What does not depend on ids holds of a raised scope just if it holds of the scope. -/
theorem any_find?_beside_right {q : Scope → Bool} (hq : ∀ s, q (s.raised base.size) = q s)
    (f : Forest) (id : Nat) :
    ((base.beside f).find? (id + base.size)).any q = (f.find? id).any q := by
  rw [find?_beside_right]
  cases f.find? id with
  | none => rfl
  | some s => exact hq s

/-- A scope of the two is one of `base` or one of `f`. -/
theorem lt_size_or_raised (base : Forest) (id : Nat) :
    id < base.size ∨ ∃ id' : Nat, id = id' + base.size := by
  rcases Nat.lt_or_ge id base.size with hlt | hge
  · exact .inl hlt
  · exact .inr ⟨id - base.size, (Nat.sub_add_cancel hge).symm⟩

theorem parent?_beside_left (hid : id < base.size) :
    (base.beside f).parent? id = base.parent? id := by
  unfold parent?
  rw [find?_beside_left hid]

theorem parent?_beside_right (base f : Forest) (id : Nat) :
    (base.beside f).parent? (id + base.size) = (f.parent? id).map (· + base.size) := by
  unfold parent?
  rw [find?_beside_right]
  cases f.find? id <;> rfl

theorem isMatched_beside_left (hid : id < base.size) :
    (base.beside f).isMatched id = base.isMatched id := by
  unfold isMatched
  rw [find?_beside_left hid]

theorem isMatched_beside_right (base f : Forest) (id : Nat) :
    (base.beside f).isMatched (id + base.size) = f.isMatched id :=
  any_find?_beside_right (fun _ => rfl) f id

theorem isClosed_beside_left (hid : id < base.size) :
    (base.beside f).isClosed id = base.isClosed id := by
  unfold isClosed
  rw [find?_beside_left hid]

theorem isClosed_beside_right (base f : Forest) (id : Nat) :
    (base.beside f).isClosed (id + base.size) = f.isClosed id :=
  any_find?_beside_right (fun _ => rfl) f id

theorem contains_beside_left (line : Nat) (span : Span) (hid : id < base.size) :
    (base.beside f).contains line span id = base.contains line span id := by
  unfold contains
  rw [find?_beside_left hid]

theorem contains_beside_right (base f : Forest) (line : Nat) (span : Span) (id : Nat) :
    (base.beside f).contains line span (id + base.size) = f.contains line span id :=
  any_find?_beside_right (fun _ => rfl) f id

@[simp] theorem openStack_beside (base f : Forest) :
    (base.beside f).openStack = f.openStack.map (· + base.size) := rfl

@[simp] theorem closed_beside (base f : Forest) :
    (base.beside f).closed.toList = base.closed.toList ++ f.closed.toList.map (· + base.size) := by
  simp [beside]

theorem head?_openStack_beside (base f : Forest) :
    (base.beside f).openStack.head? = f.openStack.head?.map (· + base.size) := by
  rw [openStack_beside, List.head?_map]

/-- The innermost open scope is none of `base`. -/
theorem head?_openStack_beside_ne (hid : id < base.size) :
    (base.beside f).openStack.head? ≠ some id := by
  rw [head?_openStack_beside]
  intro h
  obtain ⟨top, -, rfl⟩ := Option.map_eq_some_iff.1 h
  exact Nat.not_lt.2 (Nat.le_add_left base.size top) hid

theorem head?_openStack_beside_iff (base f : Forest) (id : Nat) :
    (base.beside f).openStack.head? = some (id + base.size) ↔ f.openStack.head? = some id := by
  rw [head?_openStack_beside]
  constructor
  · intro h
    obtain ⟨top, htop, heq⟩ := Option.map_eq_some_iff.1 h
    rw [htop, Nat.add_right_cancel heq]
  · intro h
    rw [h]
    rfl

/-! ## Reading and marking -/

theorem openScope_beside (base f : Forest) (m : Marker) :
    (base.beside f).openScope m = base.beside (f.openScope m) := by
  refine ext_find? (fun id => ?_) ?_ rfl
  · rw [find?_openScope]
    rcases lt_size_or_raised base id with hid | ⟨id, rfl⟩
    · -- a scope of `base` is neither the new one nor the one around it
      have hne : id ≠ (base.beside f).size := by
        rw [size_beside]
        exact Nat.ne_of_lt (Nat.lt_add_right f.size hid)
      rw [if_neg hne, if_neg (head?_openStack_beside_ne hid), find?_beside_left hid,
        find?_beside_left hid]
    · have hsize : id + base.size = (base.beside f).size ↔ id = f.size := by
        rw [size_beside]
        omega
      rw [find?_beside_right, find?_beside_right, find?_openScope]
      simp only [hsize, head?_openStack_beside_iff]
      split
      · rw [head?_openStack_beside]
        simp [Scope.opened, Scope.raised]
      · split
        · cases f.find? id with
          | none => rfl
          | some s => simp [Scope.raised, Nat.add_comm]
        · rfl
  · simp [openScope, Nat.add_comm]

theorem closeInnermost_beside (base f : Forest) (m : Marker) :
    (base.beside f).closeInnermost m = base.beside (f.closeInnermost m) := by
  refine ext_find? (fun id => ?_) ?_ (Array.toList_inj.1 ?_)
  · rw [find?_closeInnermost]
    rcases lt_size_or_raised base id with hid | ⟨id, rfl⟩
    · rw [if_neg (head?_openStack_beside_ne hid), find?_beside_left hid, find?_beside_left hid]
    · rw [find?_beside_right, find?_beside_right, find?_closeInnermost]
      simp only [head?_openStack_beside_iff]
      split
      · cases f.find? id <;> rfl
      · rfl
  · simp
  · rw [closed_closeInnermost, closed_beside, closed_beside, closed_closeInnermost,
      head?_openStack_beside]
    cases f.openStack.head? <;> simp

theorem strayCause?_beside (base f : Forest) (d : Delimiter) :
    (base.beside f).strayCause? d = f.strayCause? d := by
  unfold strayCause? innermost?
  rw [head?_openStack_beside]
  cases f.openStack.head? with
  | none => rfl
  | some top =>
    rw [Option.map_some, Option.bind_some, Option.bind_some, find?_beside_right]
    cases f.find? top <;> rfl

theorem read_beside (base f : Forest) (m : Marker) :
    ((base.beside f).read m).1 = base.beside (f.read m).1 := by
  unfold read
  split
  · exact openScope_beside base f m
  · rw [strayCause?_beside]
    split
    · rfl
    · exact closeInnermost_beside base f m

/-- Reading markers passes `base` by. -/
theorem apply_beside (base f : Forest) (markers : List Marker) :
    (base.beside f).apply markers = base.beside (f.apply markers) := by
  induction markers generalizing f with
  | nil => rfl
  | cons m rest ih => rw [apply_cons, apply_cons, read_beside, ih]

/-- Beside `base` the same closers are ignored. -/
theorem strays_beside (base f : Forest) (markers : List Marker) :
    (base.beside f).strays markers = f.strays markers := by
  induction markers generalizing f with
  | nil => rfl
  | cons m rest ih =>
    rw [strays_cons, strays_cons, stray_read, stray_read, strayCause?_beside, read_beside, ih]

theorem wayUp_beside (base f : Forest) (n : Nat) (id : Nat) :
    (base.beside f).wayUp n (id + base.size) = (f.wayUp n id).map (· + base.size) := by
  induction n generalizing id with
  | zero => rfl
  | succ n ih =>
    unfold wayUp
    rw [find?_beside_right]
    cases f.find? id with
    | none => rfl
    | some s =>
      cases hp : s.parent with
      | none => simp [Scope.raised, hp]
      | some p => simp [Scope.raised, hp, ih p]

/-- Marking passes `base` by. -/
theorem mark_beside (base f : Forest) (n : Nat) (id : Nat) :
    ((base.beside f).mark n (id + base.size)).1 = base.beside (f.mark n id).1 := by
  refine ext_find? (fun a => ?_) ?_ (Array.toList_inj.1 ?_)
  · rw [find?_mark, wayUp_beside]
    rcases lt_size_or_raised base a with ha | ⟨a, rfl⟩
    · have hnot : ¬ a ∈ (f.wayUp n id).map (· + base.size) := by
        intro h
        rcases List.mem_map.1 h with ⟨b, -, rfl⟩
        exact Nat.not_lt.2 (Nat.le_add_left base.size b) ha
      rw [find?_beside_left ha, find?_beside_left ha]
      simp [hnot]
    · have hiff : a + base.size ∈ (f.wayUp n id).map (· + base.size) ↔ a ∈ f.wayUp n id := by
        simp
      rw [find?_beside_right, find?_beside_right, find?_mark]
      simp only [hiff]
      cases f.find? a <;> rfl
  · simp
  · simp

/-! ## Containment -/

/-- Looking for the tightest scope around a span passes `base` by, unless one of its scopes contains
the span. -/
theorem innermostContaining?_beside {line : Nat} {span : Span} (hwf : base.WellFormed)
    (hbase : ∀ id ∈ base.closed.toList, base.contains line span id = false) :
    (base.beside f).innermostContaining? line span =
      (f.innermostContaining? line span).map (· + base.size) := by
  have hnone : base.closed.toList.find? ((base.beside f).contains line span) = none := by
    refine List.find?_eq_none.2 fun id hid => ?_
    rw [contains_beside_left line span (hwf.lt_size_of_mem_closed hid), hbase id hid]
    exact Bool.false_ne_true
  have hright : (base.beside f).contains line span ∘ (· + base.size) = f.contains line span :=
    funext fun id => contains_beside_right base f line span id
  unfold innermostContaining?
  rw [closed_beside, openStack_beside, List.append_assoc, List.find?_append, hnone,
    ← List.map_append, List.find?_map, hright, Option.none_or]

/-! ## Consolidating -/

theorem climb_beside_left (hbase : base.ParentsOlder) (n : Nat) (hid : id < base.size) :
    (base.beside f).climb n id = base.climb n id := by
  induction n generalizing id with
  | zero => rfl
  | succ n ih =>
    unfold climb
    rw [parent?_beside_left hid]
    cases hp : base.parent? id with
    | none => rfl
    | some p =>
      have hpsize : p < base.size := Nat.lt_trans (hbase hp) hid
      simp only [isMatched_beside_left hpsize, ih hpsize]

theorem climb_beside_right (base f : Forest) (n : Nat) (id : Nat) :
    (base.beside f).climb n (id + base.size) = f.climb n id + base.size := by
  induction n generalizing id with
  | zero => rfl
  | succ n ih =>
    unfold climb
    rw [parent?_beside_right]
    cases f.parent? id with
    | none => rfl
    | some p =>
      simp only [Option.map_some, isMatched_beside_right, ih p]
      split <;> rfl

theorem foldsInto?_beside_left (hbase : base.ParentsOlder) (hid : id < base.size) :
    (base.beside f).foldsInto? id = base.foldsInto? id := by
  have hup : (base.beside f).outermostMatched id = base.outermostMatched id := by
    unfold outermostMatched
    rw [climb_beside_left hbase _ hid, size_beside]
    exact climb_eq_of_le hbase (by omega) (by omega)
  have hlt := Nat.lt_of_le_of_lt (outermostMatched_le hbase id) hid
  unfold foldsInto?
  rw [hup, isMatched_beside_left hid, isClosed_beside_left hlt]

theorem foldsInto?_beside_right (base : Forest) (hf : f.ParentsOlder) (hid : id < f.size) :
    (base.beside f).foldsInto? (id + base.size) = (f.foldsInto? id).map (· + base.size) := by
  have hup : (base.beside f).outermostMatched (id + base.size) =
      f.outermostMatched id + base.size := by
    unfold outermostMatched
    rw [climb_beside_right, size_beside, climb_eq_of_le hf (n := f.size) (by omega) (by omega)]
  unfold foldsInto?
  rw [hup, isMatched_beside_right, isClosed_beside_right]
  split <;> rfl

/-- What the waiting scopes of the two are folded into stands one after the other. -/
theorem consolidate_beside (hbase : base.WellFormed) (hf : f.WellFormed) :
    (base.beside f).consolidate = base.consolidate ++ f.consolidate.map (· + base.size) := by
  let left := base.closed.toList.filterMap base.foldsInto?
  let right := f.closed.toList.filterMap f.foldsInto?
  have hleft : base.closed.toList.filterMap (base.beside f).foldsInto? = left :=
    List.filterMap_congr fun id hid =>
      foldsInto?_beside_left hbase.parentsOlder (hbase.lt_size_of_mem_closed hid)
  have hright : (f.closed.toList.map (· + base.size)).filterMap (base.beside f).foldsInto? =
      right.map (· + base.size) := by
    rw [List.filterMap_map, List.map_filterMap]
    exact List.filterMap_congr fun id hid =>
      foldsInto?_beside_right base hf.parentsOlder (hf.lt_size_of_mem_closed hid)
  -- what is folded into on the left is on the left
  have hapart : (right.map (· + base.size)).removeAll left = right.map (· + base.size) := by
    refine List.filter_eq_self.2 fun id hid => ?_
    rcases List.mem_map.1 hid with ⟨id', -, rfl⟩
    have hnot : id' + base.size ∉ left := by
      intro h
      obtain ⟨d, hd, hfold⟩ := List.mem_filterMap.1 h
      rcases foldsInto?_eq_some_iff.1 hfold with ⟨-, hup, -⟩
      have hle := outermostMatched_le hbase.parentsOlder d
      rw [hup] at hle
      have hlt := Nat.lt_of_le_of_lt hle (hbase.lt_size_of_mem_closed hd)
      exact Nat.not_lt.2 (Nat.le_add_left base.size id') hlt
    simpa using hnot
  have hmap : (right.map (· + base.size)).eraseDups = right.eraseDups.map (· + base.size) :=
    eraseDups_map (fun _ _ h => Nat.add_right_cancel h) right
  rw [consolidate_eq, closed_beside, List.filterMap_append, hleft, hright, List.eraseDups_append,
    hapart, hmap, consolidate_eq, consolidate_eq]

/-! ## Reports -/

theorem reports_append (f : Forest) (ids others : List ScopeId) :
    f.reports (ids ++ others) = f.reports ids ++ f.reports others := by
  simp [reports]

theorem reports_beside_left {ids : List ScopeId} (hids : ∀ id : Nat, id ∈ ids → id < base.size) :
    (base.beside f).reports ids = base.reports ids := by
  unfold reports
  rw [List.filterMap_congr fun id hid => find?_beside_left (hids id hid)]

theorem reports_beside_right (base f : Forest) (ids : List ScopeId) :
    (base.beside f).reports (ids.map (· + base.size)) = f.reports ids := by
  induction ids with
  | nil => rfl
  | cons id rest ih =>
    unfold reports at ih ⊢
    rw [List.map_cons, List.filterMap_cons, List.filterMap_cons, find?_beside_right]
    cases f.find? id with
    | none => exact ih
    | some s => exact congrArg (s.report :: ·) ih

/-- The reports of the waiting scopes of the two stand one after the other. -/
theorem reports_consolidate_beside (hbase : base.WellFormed) (hf : f.WellFormed) :
    (base.beside f).reports (base.beside f).consolidate =
      base.reports base.consolidate ++ f.reports f.consolidate := by
  have hids : ∀ id : Nat, id ∈ base.consolidate → id < base.size := fun id hid =>
    hbase.lt_size_of_mem_closed ((mem_consolidate_iff hbase).1 hid).1
  rw [consolidate_beside hbase hf, reports_append, reports_beside_left hids, reports_beside_right]

/-- The open scopes are those of `f`. -/
theorem openReports_beside (base f : Forest) : (base.beside f).openReports = f.openReports := by
  have hids : (base.beside f).openIds.filter (base.beside f).isMatched =
      (f.openIds.filter f.isMatched).map (· + base.size) := by
    have hmatched : (base.beside f).isMatched ∘ (· + base.size) = f.isMatched :=
      funext fun id => isMatched_beside_right base f id
    unfold openIds
    rw [openStack_beside, ← List.map_reverse, List.filter_map, hmatched]
  unfold openReports
  rw [hids, reports_beside_right]

end Forest

end ScopeSearch
