import Mathlib.Logic.Relation
import Mathlib.Tactic.ByContra
import ScopeSearch.Forest.Flushing

/-!
# ScopeSearch.Proofs.Forest.Ancestry — the scopes around a scope

The parent links of a forest lead upwards: `Ancestor a b` says that `a` is on the way up from `b`.
In a forest whose parents are older than their children (`ParentsOlder`) every way up ends, and

* `lineage_of_parent?`, `lineage_of_root` — `lineage` lists the whole way up;
* `eq_or_ancestor_of_mem_wayUp` — what is on the way up from a scope is the scope or around it;
* `mem_lineage_iff` — so in the lineage of a scope are the scope and all around it;
* `take_lineage` — the scopes that marking visits are the first ones of a lineage;
* `Ancestor.length_lineage_lt` — the further in a scope is, the longer its lineage.

`Stacked` says of a list of scopes, such as the open ones, that each stands directly in the next.
-/

namespace ScopeSearch.Forest

variable {f g : Forest} {a b c p id : Nat} {s : Scope}

/-! ## Parents -/

theorem lt_size_of_find? (hs : f.find? id = some s) : id < f.size :=
  (f.find?_isSome_iff id).1 (by simp [hs])

/-- What has a property is there. -/
theorem lt_size_of_any {p : Scope → Bool} (h : (f.find? id).any p = true) : id < f.size := by
  obtain ⟨s, hs, -⟩ := (Option.any_eq_true p (f.find? id)).1 h
  exact lt_size_of_find? hs

theorem exists_find? (hid : id < f.size) : ∃ s, f.find? id = some s :=
  Option.isSome_iff_exists.1 ((f.find?_isSome_iff id).2 hid)

theorem parent?_of_find? (hs : f.find? id = some s) : f.parent? id = s.parent := by
  simp [parent?, hs]

theorem parent?_of_size_le (hid : f.size ≤ id) : f.parent? id = none := by
  cases hs : f.find? id with
  | none => simp [parent?, hs]
  | some s => exact absurd (lt_size_of_find? hs) (Nat.not_lt.2 hid)

theorem lt_size_of_parent? (hp : f.parent? c = some p) : c < f.size := by
  by_contra hc
  rw [parent?_of_size_le (Nat.not_lt.1 hc)] at hp
  cases hp

theorem parent?_modify (f : Forest) (id : ScopeId) {change : Scope → Scope}
    (hchange : ∀ s, (change s).parent = s.parent) : (f.modify id change).parent? = f.parent? := by
  funext other
  unfold parent?
  rw [find?_modify]
  split
  · cases f.find? other <;> simp [hchange]
  · rfl

theorem parent?_openScope (f : Forest) (opener : Marker) (id : ScopeId) :
    (f.openScope opener).parent? id =
      if id = f.size then f.openStack.head? else f.parent? id := by
  unfold parent?
  rw [find?_openScope]
  split
  · rfl
  · split
    · cases f.find? id <;> rfl
    · rfl

theorem parent?_openScope_of_lt (opener : Marker) (hid : id < f.size) :
    (f.openScope opener).parent? id = f.parent? id := by
  rw [parent?_openScope, if_neg (Nat.ne_of_lt hid)]

theorem parent?_closeInnermost (f : Forest) (closer : Marker) :
    (f.closeInnermost closer).parent? = f.parent? := by
  funext id
  unfold parent?
  rw [find?_closeInnermost]
  split
  · cases f.find? id <;> rfl
  · rfl

/-! ## Ancestors -/

/-- The scope `a` is on the way up from the scope `b`: the scope around it, or the one around
that, and so on. -/
def Ancestor (f : Forest) : ScopeId → ScopeId → Prop :=
  Relation.TransGen fun p c => f.parent? c = some p

theorem ancestor_of_parent? (hp : f.parent? c = some p) : f.Ancestor p c :=
  .single hp

/-- What is around a scope is its parent and what is around that. -/
theorem ancestor_iff : f.Ancestor a b ↔ ∃ p, f.parent? b = some p ∧ (a = p ∨ f.Ancestor a p) := by
  constructor
  · intro h
    cases h with
    | single hp => exact ⟨a, hp, .inl rfl⟩
    | tail hap hp => exact ⟨_, hp, .inr hap⟩
  · rintro ⟨p, hp, rfl | hap⟩
    · exact .single hp
    · exact .tail hap hp

theorem not_ancestor_of_root (hb : f.parent? b = none) : ¬ f.Ancestor a b := by
  intro h
  rcases ancestor_iff.1 h with ⟨p, hp, -⟩
  rw [hb] at hp
  cases hp

theorem ancestor_congr (h : g.parent? = f.parent?) : g.Ancestor = f.Ancestor := by
  unfold Ancestor
  rw [h]

theorem Ancestor.lt_size (h : f.Ancestor a b) : b < f.size := by
  rcases ancestor_iff.1 h with ⟨p, hp, -⟩
  exact lt_size_of_parent? hp

/-- Every scope has a greater id than the scope around it. -/
def ParentsOlder (f : Forest) : Prop :=
  ∀ ⦃c p : Nat⦄, f.parent? c = some p → p < c

theorem Ancestor.lt (hf : f.ParentsOlder) (h : f.Ancestor a b) : a < b := by
  induction h with
  | single hp => exact hf hp
  | tail _ hp ih => exact Nat.lt_trans ih (hf hp)

theorem not_ancestor_self (hf : f.ParentsOlder) : ¬ f.Ancestor a a :=
  fun h => Nat.lt_irrefl a (h.lt hf)

/-- Two forests that agree on the parents of `b` and of all older scopes agree on what is around
`b`. -/
theorem ancestor_congr_below (hf : f.ParentsOlder)
    (hb : ∀ c ≤ b, g.parent? c = f.parent? c) : g.Ancestor a b ↔ f.Ancestor a b := by
  -- what is around a scope is around its parent, which is older
  induction b using Nat.strongRecOn with
  | ind b ih =>
    rw [ancestor_iff, ancestor_iff, hb b (Nat.le_refl b)]
    refine exists_congr fun (p : Nat) => and_congr_right fun hp => or_congr_right ?_
    have hpb : p < b := hf hp
    exact ih p hpb fun c hc => hb c (by omega)

theorem ancestor_openScope (hf : f.ParentsOlder) (opener : Marker) (hb : b < f.size) :
    (f.openScope opener).Ancestor a b ↔ f.Ancestor a b :=
  ancestor_congr_below hf fun _ hc => parent?_openScope_of_lt opener (by omega)

/-! ## Stacks of nested scopes -/

/-- The scopes of a list, innermost first, are nested one directly in the next, and the last one is
in none. -/
def Stacked (f : Forest) : List ScopeId → Prop
  | [] => True
  | id :: outer => id < f.size ∧ f.parent? id = outer.head? ∧ f.Stacked outer

theorem Stacked.lt_size {stack : List ScopeId} (h : f.Stacked stack) :
    ∀ id : Nat, id ∈ stack → id < f.size := by
  induction stack with
  | nil => exact fun id hid => absurd hid List.not_mem_nil
  | cons top outer ih =>
    intro id hid
    rcases List.mem_cons.1 hid with rfl | hid
    · exact h.1
    · exact ih h.2.2 id hid

theorem Stacked.congr {stack : List ScopeId} (h : f.Stacked stack)
    (hg : ∀ id : Nat, id < f.size → id < g.size ∧ g.parent? id = f.parent? id) :
    g.Stacked stack := by
  induction stack with
  | nil => trivial
  | cons top outer ih =>
    rcases hg top h.1 with ⟨hlt, hp⟩
    exact ⟨hlt, hp.trans h.2.1, ih h.2.2⟩

theorem Stacked.of_append {inner outer : List ScopeId} (h : f.Stacked (inner ++ outer)) :
    f.Stacked outer := by
  induction inner with
  | nil => exact h
  | cons _ _ ih => exact ih h.2.2

/-- In a stack of nested scopes, what is around a scope is what is below it. -/
theorem Stacked.ancestor_iff {outer : List ScopeId} (h : f.Stacked (b :: outer)) :
    f.Ancestor a b ↔ a ∈ outer := by
  -- going up from the scope is going down the stack
  induction outer generalizing b with
  | nil => simpa using not_ancestor_of_root h.2.1
  | cons next rest ih =>
    have hp : f.parent? b = some next := h.2.1
    rw [Forest.ancestor_iff, hp, List.mem_cons]
    constructor
    · rintro ⟨p, hp, hap⟩
      cases hp
      exact hap.imp_right (ih h.2.2).1
    · exact fun ha => ⟨next, rfl, ha.imp_right (ih h.2.2).2⟩

/-- What is around a scope of a stack is in the stack. -/
theorem Stacked.mem_of_ancestor {stack : List ScopeId} (h : f.Stacked stack) (hb : b ∈ stack)
    (hab : f.Ancestor a b) : a ∈ stack := by
  rcases List.append_of_mem hb with ⟨inner, outer, rfl⟩
  have ha : a ∈ outer := h.of_append.ancestor_iff.1 hab
  simp [ha]

/-- A stack of nested scopes goes from younger to older scopes. -/
theorem Stacked.pairwise (hf : f.ParentsOlder) {stack : List ScopeId} (h : f.Stacked stack) :
    stack.Pairwise fun inner outer : Nat => outer < inner := by
  induction stack with
  | nil => exact .nil
  | cons top outer ih =>
    refine .cons (fun id hid => ?_) (ih h.2.2)
    exact (h.ancestor_iff.2 hid).lt hf

/-! ## Ways up -/

/-- What holds of every scope without a parent, and of a scope once it holds of its parent, holds of
every scope. -/
@[elab_as_elim]
theorem upward_induction (hf : f.ParentsOlder) {motive : Nat → Prop}
    (root : ∀ id, f.parent? id = none → motive id)
    (child : ∀ id p : Nat, f.parent? id = some p → motive p → motive id) (id : Nat) :
    motive id := by
  induction id using Nat.strongRecOn with
  | ind id ih =>
    cases hp : f.parent? id with
    | none => exact root id hp
    | some p => exact child id p hp (ih p (hf hp))

/-- More steps than a way up can have make no difference. -/
theorem wayUp_eq_of_lt (hf : f.ParentsOlder) {m n : Nat} (hm : id < m) (hn : id < n) :
    f.wayUp m id = f.wayUp n id := by
  -- each step up leads to a smaller id, so both numbers of steps stay above it
  induction m generalizing n id with
  | zero => exact absurd hm (Nat.not_lt_zero id)
  | succ m ih =>
    obtain ⟨n, rfl⟩ := Nat.exists_eq_succ_of_ne_zero (Nat.ne_zero_of_lt hn)
    cases hs : f.find? id with
    | none => simp only [wayUp, hs]
    | some s =>
      cases hp : s.parent with
      | none => simp only [wayUp, hs, hp]
      | some p =>
        have hlt : p < id := hf ((parent?_of_find? hs).trans hp)
        have hrest : f.wayUp m p = f.wayUp n p :=
          ih (Nat.lt_of_lt_of_le hlt (Nat.le_of_lt_succ hm))
            (Nat.lt_of_lt_of_le hlt (Nat.le_of_lt_succ hn))
        simp only [wayUp, hs, hp, hrest]

/-- A way up depends on nothing but the links to parents. -/
theorem wayUp_congr (h : ∀ a, (g.find? a).map Scope.parent = (f.find? a).map Scope.parent) (n : Nat)
    (id : ScopeId) : g.wayUp n id = f.wayUp n id := by
  induction n generalizing id with
  | zero => rfl
  | succ n ih =>
    have hid := h id
    cases hs : f.find? id with
    | none =>
      have ht : g.find? id = none := by simpa [hs] using hid
      simp only [wayUp, hs, ht]
    | some s =>
      obtain ⟨t, ht, hparent⟩ : ∃ t, g.find? id = some t ∧ t.parent = s.parent := by
        simpa [hs] using hid
      simp only [wayUp, hs, ht, hparent, ih]

/-- A change of one scope that leaves its parent alone changes no way up. -/
theorem wayUp_modify (f : Forest) (id : ScopeId) {change : Scope → Scope}
    (hchange : ∀ s, (change s).parent = s.parent) : (f.modify id change).wayUp = f.wayUp := by
  funext n a
  refine wayUp_congr (fun c => ?_) n a
  rw [find?_modify]
  split
  · cases f.find? c <;> simp [hchange]
  · rfl

/-- On the way up from a scope are the scope itself and what is on the way up from its parent. -/
theorem mem_wayUp_succ {n : Nat} : a ∈ f.wayUp (n + 1) id ↔
    id < f.size ∧ (a = id ∨ ∃ p, f.parent? id = some p ∧ a ∈ f.wayUp n p) := by
  cases hs : f.find? id with
  | none =>
    have hid : ¬ id < f.size := by
      rw [← find?_isSome_iff, hs]
      exact Bool.false_ne_true
    simp [wayUp, hs, hid]
  | some s =>
    rw [and_iff_right (lt_size_of_find? hs), parent?_of_find? hs]
    cases hp : s.parent <;> simp [wayUp, hs, hp]

theorem self_mem_wayUp {n : Nat} (hn : 0 < n) (hid : id < f.size) : id ∈ f.wayUp n id := by
  obtain ⟨n, rfl⟩ := Nat.exists_eq_succ_of_ne_zero (Nat.ne_of_gt hn)
  exact mem_wayUp_succ.2 ⟨hid, .inl rfl⟩

theorem lt_size_of_mem_wayUp {n : Nat} (ha : a ∈ f.wayUp n id) : a < f.size := by
  induction n generalizing id with
  | zero => cases ha
  | succ n ih =>
    rcases mem_wayUp_succ.1 ha with ⟨hid, rfl | ⟨p, -, ha⟩⟩
    · exact hid
    · exact ih ha

/-- Besides the scope itself, its way up holds scopes around it. -/
theorem eq_or_ancestor_of_mem_wayUp {n : Nat} (ha : a ∈ f.wayUp n id) :
    a = id ∨ f.Ancestor a id := by
  induction n generalizing id with
  | zero => cases ha
  | succ n ih =>
    rcases mem_wayUp_succ.1 ha with ⟨-, heq | ⟨p, hp, ha⟩⟩
    · exact .inl heq
    · exact .inr (ancestor_iff.2 ⟨p, hp, ih ha⟩)

theorem take_wayUp (f : Forest) (m n : Nat) (id : ScopeId) :
    (f.wayUp m id).take n = f.wayUp (min n m) id := by
  induction m generalizing n id with
  | zero => simp [wayUp]
  | succ m ih =>
    cases n with
    | zero => simp [wayUp]
    | succ n =>
      rw [Nat.succ_min_succ]
      cases hs : f.find? id with
      | none => simp [wayUp, hs]
      | some s =>
        cases hp : s.parent with
        | none => simp [wayUp, hs, hp]
        | some p => simp only [wayUp, hs, hp, List.take_succ_cons, ih]

/-- The first scopes of a lineage are those that marking visits. -/
theorem take_lineage (hf : f.ParentsOlder) (n : Nat) (id : Nat) :
    (f.lineage id).take n = f.wayUp n id := by
  unfold lineage
  rw [take_wayUp]
  by_cases hn : n ≤ f.size
  · rw [Nat.min_eq_left hn]
  · rw [Nat.min_eq_right (Nat.le_of_not_le hn)]
    by_cases hid : id < f.size
    · exact wayUp_eq_of_lt hf hid (by omega)
    · -- an id beyond the forest has no way up at all
      have hs : f.find? id = none := by
        rw [← Option.not_isSome_iff_eq_none, find?_isSome_iff]
        exact hid
      have hempty : ∀ k, f.wayUp k id = [] := by
        intro k
        cases k with
        | zero => rfl
        | succ k => simp [wayUp, hs]
      rw [hempty, hempty]

theorem lineage_of_root (hid : id < f.size) (hp : f.parent? id = none) : f.lineage id = [id] := by
  obtain ⟨s, hs⟩ := exists_find? hid
  have hsp : s.parent = none := (parent?_of_find? hs).symm.trans hp
  obtain ⟨n, hn⟩ := Nat.exists_eq_succ_of_ne_zero (Nat.ne_zero_of_lt hid)
  simp [lineage, hn, wayUp, hs, hsp]

theorem lineage_of_parent? (hf : f.ParentsOlder) (hp : f.parent? id = some p) :
    f.lineage id = id :: f.lineage p := by
  have hid : id < f.size := lt_size_of_parent? hp
  obtain ⟨s, hs⟩ := exists_find? hid
  have hsp : s.parent = some p := (parent?_of_find? hs).symm.trans hp
  have hlt : p < id := hf hp
  obtain ⟨n, hn⟩ := Nat.exists_eq_succ_of_ne_zero (Nat.ne_zero_of_lt hid)
  have hrest : f.wayUp n p = f.lineage p := wayUp_eq_of_lt hf (by omega) (by omega)
  have hstep : f.lineage id = id :: f.wayUp n p := by
    unfold lineage
    rw [hn]
    simp only [wayUp, hs, hsp]
  rw [hstep, hrest]

/-- A lineage begins with the scope itself. -/
theorem getElem?_zero_lineage (hf : f.ParentsOlder) (hid : id < f.size) :
    (f.lineage id)[0]? = some id := by
  cases hp : f.parent? id with
  | none => rw [lineage_of_root hid hp, List.getElem?_cons_zero]
  | some p => rw [lineage_of_parent? hf hp, List.getElem?_cons_zero]

/-- A lineage holds the scope itself and the scopes around it. -/
theorem mem_lineage_iff (hf : f.ParentsOlder) (hid : id < f.size) :
    a ∈ f.lineage id ↔ a = id ∨ f.Ancestor a id := by
  constructor
  · exact eq_or_ancestor_of_mem_wayUp
  · induction id using upward_induction hf with
    | root id hp =>
      rintro (rfl | hancestor)
      · rw [lineage_of_root hid hp]
        exact List.mem_singleton_self a
      · exact absurd hancestor (not_ancestor_of_root hp)
    | child id p hp ih =>
      rw [lineage_of_parent? hf hp]
      rintro (rfl | hancestor)
      · exact List.mem_cons_self
      · -- what is around the scope is its parent or around that
        rcases ancestor_iff.1 hancestor with ⟨p', hp', hup⟩
        rw [hp] at hp'
        cases hp'
        exact List.mem_cons_of_mem id (ih (Nat.lt_trans (hf hp) hid) hup)

/-- A scope further in has the longer lineage. -/
theorem Ancestor.length_lineage_lt (hf : f.ParentsOlder) (h : f.Ancestor a b) :
    (f.lineage a).length < (f.lineage b).length := by
  induction h with
  | single hp => simp [lineage_of_parent? hf hp]
  | tail _ hp ih =>
    rw [lineage_of_parent? hf hp, List.length_cons]
    omega

/-- A lineage depends on nothing but the parents of the scope and of the older ones. -/
theorem lineage_congr (hf : f.ParentsOlder) (hg : g.ParentsOlder) (hsize : id < f.size)
    (hle : f.size ≤ g.size) (h : ∀ c ≤ id, g.parent? c = f.parent? c) :
    g.lineage id = f.lineage id := by
  induction id using upward_induction hf with
  | root id hp =>
    rw [lineage_of_root hsize hp, lineage_of_root (by omega) ((h id (Nat.le_refl id)).trans hp)]
  | child id p hp ih =>
    have hlt : p < id := hf hp
    rw [lineage_of_parent? hf hp,
      lineage_of_parent? hg ((h id (Nat.le_refl id)).trans hp),
      ih (by omega) fun c hc => h c (by omega)]

end ScopeSearch.Forest
