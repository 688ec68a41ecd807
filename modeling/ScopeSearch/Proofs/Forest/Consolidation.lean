import Mathlib.Data.List.Induction
import Mathlib.Data.List.Pairwise
import ScopeSearch.Proofs.Forest.WellFormed

/-!
# ScopeSearch.Proofs.Forest.Consolidation — which scopes are reported, and in what order

Consolidating folds each waiting marked scope into the last scope of the unbroken line of marked
scopes that leads up from it. For a well-formed forest

* `mem_consolidate_iff` — the results are the waiting marked scopes without a marked parent;
* `pairwise_consolidate` — they stand in the order of the first waiting scope that an unbroken line
  leads up from to each of them;
* `nodup_consolidate` — each of them stands there once;
* `consolidate_eq_mergeSort` — so consolidating sorts them by the first waiting scopes.
-/

namespace ScopeSearch.Forest

variable {f g : Forest} {a b d c p t id : Nat}

/-! ## Lists without repetitions -/

section Lists

variable {α β : Type} [BEq β] [LawfulBEq β]

/-- A further element is kept just if it is new. -/
theorem eraseDups_concat (l : List β) (b : β) :
    (l ++ [b]).eraseDups = if l.contains b then l.eraseDups else l.eraseDups ++ [b] := by
  rw [List.eraseDups_append]
  by_cases hb : b ∈ l
  · simp [List.removeAll, hb]
  · simp [List.removeAll, hb, List.eraseDups_cons]

/-- Looking further than a list that holds what is looked for finds the same place. -/
theorem findIdx_append_of_exists {l r : List α} {q : α → Bool} (h : ∃ a ∈ l, q a = true) :
    (l ++ r).findIdx q = l.findIdx q := by
  rw [List.findIdx_append, if_pos (List.findIdx_lt_length.2 h)]

/-- Without repetitions, results stand in the order of the first elements that they come from. -/
theorem pairwise_eraseDups_filterMap (fold : α → Option β) (l : List α) :
    (l.filterMap fold).eraseDups.Pairwise fun b c =>
      l.findIdx (fun a => fold a == some b) < l.findIdx (fun a => fold a == some c) := by
  -- from the end of the list: only the last element can give a result that was not there before
  induction l using List.reverseRecOn with
  | nil => exact .nil
  | append_singleton l x ih =>
    have hexists : ∀ {b}, b ∈ (l.filterMap fold).eraseDups →
        ∃ a ∈ l, (fold a == some b) = true := by
      intro b hb
      obtain ⟨a, ha, hab⟩ := List.mem_filterMap.1 (List.mem_eraseDups.1 hb)
      exact ⟨a, ha, beq_iff_eq.2 hab⟩
    have hold : (l.filterMap fold).eraseDups.Pairwise fun b c =>
        (l ++ [x]).findIdx (fun a => fold a == some b) <
          (l ++ [x]).findIdx (fun a => fold a == some c) := by
      refine ih.imp_of_mem fun hb hc hbc => ?_
      rw [findIdx_append_of_exists (hexists hb), findIdx_append_of_exists (hexists hc)]
      exact hbc
    rw [List.filterMap_append]
    cases hx : fold x with
    | none => simpa [hx] using hold
    | some y =>
      have hone : [x].filterMap fold = [y] := by simp [hx]
      rw [hone, eraseDups_concat]
      split
      · exact hold
      · rename_i hnew
        rw [List.pairwise_append]
        refine ⟨hold, List.pairwise_singleton _ _, ?_⟩
        intro b hb c hc
        rw [List.mem_singleton.1 hc]
        -- the new result comes from no element before the last one
        have hnone : ¬ l.findIdx (fun a => fold a == some y) < l.length := by
          rw [List.findIdx_lt_length]
          rintro ⟨a, ha, hay⟩
          refine hnew (List.contains_iff_mem.2 (List.mem_filterMap.2 ⟨a, ha, ?_⟩))
          exact beq_iff_eq.1 hay
        rw [findIdx_append_of_exists (hexists hb), List.findIdx_append, if_neg hnone]
        have hlt := List.findIdx_lt_length.2 (hexists hb)
        omega

theorem nodup_eraseDups (l : List β) : l.eraseDups.Nodup := by
  induction l using List.reverseRecOn with
  | nil => exact List.nodup_nil
  | append_singleton l b ih =>
    rw [eraseDups_concat]
    split
    · exact ih
    · rename_i hb
      rw [List.nodup_append]
      refine ⟨ih, by simp, ?_⟩
      intro c hc b' hb' heq
      rw [List.mem_singleton.1 hb'] at heq
      exact hb (List.contains_iff_mem.2 (List.mem_eraseDups.1 (heq ▸ hc)))

end Lists

/-! ## Climbing -/

/-- The way up from a scope along marked scopes stops at it: it has no marked parent. -/
def StopsAt (f : Forest) (id : ScopeId) : Prop :=
  ∀ p, f.parent? id = some p → f.isMatched p = false

theorem stopsAt_of_root (hp : f.parent? id = none) : f.StopsAt id := by
  intro p hp'
  rw [hp] at hp'
  cases hp'

theorem climb_of_stopsAt (h : f.StopsAt id) (n : Nat) : f.climb n id = id := by
  cases n with
  | zero => rfl
  | succ n =>
    cases hp : f.parent? id with
    | none => simp [climb, hp]
    | some p => simp [climb, hp, h p hp]

/-- A climb depends on nothing but links and marks. -/
theorem climb_congr (hparent : g.parent? = f.parent?) (hmatched : g.isMatched = f.isMatched)
    (n : Nat) (id : ScopeId) : g.climb n id = f.climb n id := by
  induction n generalizing id with
  | zero => rfl
  | succ n ih =>
    unfold climb
    rw [hparent, hmatched]
    cases f.parent? id with
    | none => rfl
    | some p => simp only [ih p]

/-- A scope has fewer scopes above it than its id says. -/
theorem climb_eq_of_le (hf : f.ParentsOlder) {m n : Nat} (hm : id ≤ m) (hn : id ≤ n) :
    f.climb m id = f.climb n id := by
  induction m generalizing n id with
  | zero =>
    have hstop : f.StopsAt id := by
      intro p hp
      have hlt := hf hp
      omega
    rw [climb_of_stopsAt hstop, climb_of_stopsAt hstop]
  | succ m ih =>
    cases hp : f.parent? id with
    | none =>
      rw [climb_of_stopsAt (stopsAt_of_root hp), climb_of_stopsAt (stopsAt_of_root hp)]
    | some p =>
      have hlt := hf hp
      obtain ⟨n, rfl⟩ := Nat.exists_eq_succ_of_ne_zero (show n ≠ 0 by omega)
      have hrest : f.climb m p = f.climb n p := ih (by omega) (by omega)
      simp only [climb, hp, hrest]

theorem outermostMatched_of_stopsAt (h : f.StopsAt id) : f.outermostMatched id = id :=
  climb_of_stopsAt h f.size

theorem outermostMatched_of_parent? (hf : f.ParentsOlder) (hp : f.parent? id = some p)
    (hmatched : f.isMatched p = true) : f.outermostMatched id = f.outermostMatched p := by
  have hid : id < f.size := lt_size_of_parent? hp
  have hlt := hf hp
  obtain ⟨n, hn⟩ := Nat.exists_eq_succ_of_ne_zero (Nat.ne_zero_of_lt hid)
  have hstep : f.outermostMatched id = f.climb n p := by
    simp [outermostMatched, hn, climb, hp, hmatched]
  rw [hstep]
  exact climb_eq_of_le hf (by omega) (by omega)

/-- Either the way up stops at a scope or it goes on at its marked parent. -/
theorem stopsAt_or_parent? (f : Forest) (id : Nat) :
    f.StopsAt id ∨ ∃ p, f.parent? id = some p ∧ f.isMatched p = true := by
  by_cases h : f.StopsAt id
  · exact .inl h
  · unfold StopsAt at h
    push Not at h
    rcases h with ⟨p, hp, hmatched⟩
    exact .inr ⟨p, hp, by simpa using hmatched⟩

/-- Climbing ends where the way up stops, at the scope itself or around it. -/
theorem outermostMatched_spec (hf : f.ParentsOlder) (id : Nat) :
    f.StopsAt (f.outermostMatched id) ∧
      (f.isMatched id = true → f.isMatched (f.outermostMatched id) = true) ∧
      (f.outermostMatched id = id ∨ f.Ancestor (f.outermostMatched id) id) := by
  induction id using Nat.strongRecOn with
  | ind id ih =>
    rcases f.stopsAt_or_parent? id with hstop | ⟨p, hp, hmatched⟩
    · rw [outermostMatched_of_stopsAt hstop]
      exact ⟨hstop, fun h => h, .inl rfl⟩
    · rcases ih p (hf hp) with ⟨hstop, hkeep, hup⟩
      rw [outermostMatched_of_parent? hf hp hmatched]
      refine ⟨hstop, fun _ => hkeep hmatched, .inr ?_⟩
      rcases hup with hup | hup
      · rw [hup]
        exact ancestor_of_parent? hp
      · exact hup.tail hp

theorem outermostMatched_le (hf : f.ParentsOlder) (id : Nat) : f.outermostMatched id ≤ id := by
  rcases outermostMatched_spec hf id with ⟨-, -, heq | hancestor⟩
  · exact Nat.le_of_eq heq
  · exact Nat.le_of_lt (hancestor.lt hf)

/-! ## Unbroken lines -/

/-- The scopes that an unbroken line of marked scopes leads up to from a given one, itself the
first; `marked` says which scopes are marked. -/
def unbrokenLine (f : Forest) (marked : ScopeId → Bool) (id : ScopeId) : List ScopeId :=
  (f.lineage id).takeWhile marked

theorem lt_size_of_isMatched (h : f.isMatched id = true) : id < f.size :=
  lt_size_of_any h

/-- A marked scope can be looked up in any forest that differs in its marks alone. -/
theorem exists_find?_of_isMatched (hsame : g.unmarked = f.unmarked) (h : g.isMatched id = true) :
    ∃ s, f.find? id = some s := by
  have hid := lt_size_of_isMatched h
  rw [size_eq_of_unmarked_eq hsame] at hid
  exact exists_find? hid

theorem unbrokenLine_of_unmatched (h : f.isMatched id = false) (hf : f.ParentsOlder) :
    f.unbrokenLine f.isMatched id = [] := by
  unfold unbrokenLine
  by_cases hid : id < f.size
  · cases hp : f.parent? id with
    | none => simp [lineage_of_root hid hp, h]
    | some p => simp [lineage_of_parent? hf hp, h]
  · have hnone : f.find? id = none := by
      rw [← Option.not_isSome_iff_eq_none, find?_isSome_iff]
      exact hid
    cases hsize : f.size with
    | zero => simp [lineage, hsize, wayUp]
    | succ n => simp [lineage, hsize, wayUp, hnone]

theorem unbrokenLine_of_root (h : f.isMatched id = true) (hp : f.parent? id = none) :
    f.unbrokenLine f.isMatched id = [id] := by
  unfold unbrokenLine
  rw [lineage_of_root (lt_size_of_isMatched h) hp]
  simp [h]

theorem unbrokenLine_of_parent? (hf : f.ParentsOlder) (h : f.isMatched id = true)
    (hp : f.parent? id = some p) :
    f.unbrokenLine f.isMatched id = id :: f.unbrokenLine f.isMatched p := by
  unfold unbrokenLine
  rw [lineage_of_parent? hf hp]
  simp [h]

/-- A scope where ways up stop is at the end of an unbroken line just if climbing ends there. -/
theorem mem_unbrokenLine_iff (hf : f.ParentsOlder) (ht : f.StopsAt t) :
    t ∈ f.unbrokenLine f.isMatched d ↔ f.isMatched d = true ∧ f.outermostMatched d = t := by
  -- up from the scope: a line goes on at a marked parent just if climbing does
  induction d using upward_induction hf with
  | root d hp =>
    cases hd : f.isMatched d with
    | false => simp [unbrokenLine_of_unmatched hd hf]
    | true =>
      rw [unbrokenLine_of_root hd hp, outermostMatched_of_stopsAt (stopsAt_of_root hp),
        List.mem_singleton]
      simp [eq_comm]
  | child d p hp ih =>
    cases hd : f.isMatched d with
    | false => simp [unbrokenLine_of_unmatched hd hf]
    | true =>
      rw [unbrokenLine_of_parent? hf hd hp, List.mem_cons]
      cases hmatched : f.isMatched p with
      | false =>
        have hstop : f.StopsAt d := by
          intro q hq
          rw [hp] at hq
          cases hq
          exact hmatched
        rw [unbrokenLine_of_unmatched hmatched hf, outermostMatched_of_stopsAt hstop]
        simp [eq_comm]
      | true =>
        -- the way up goes on at the parent, so it does not stop here
        have hne : t ≠ d := by
          rintro rfl
          rw [ht p hp] at hmatched
          cases hmatched
        rw [outermostMatched_of_parent? hf hp hmatched, ih, or_iff_right hne]
        simp [hmatched]

/-! ## Consolidating -/

/-- What a waiting scope is folded into, if it is marked and the result is closed. -/
def foldsInto? (f : Forest) (id : ScopeId) : Option ScopeId :=
  if f.isMatched id && f.isClosed (f.outermostMatched id) then some (f.outermostMatched id)
  else none

theorem foldsInto?_eq_some_iff : f.foldsInto? d = some t ↔
    f.isMatched d = true ∧ f.outermostMatched d = t ∧ f.isClosed t = true := by
  unfold foldsInto?
  split
  · rename_i h
    rw [Bool.and_eq_true] at h
    simp only [Option.some.injEq, h.1, true_and]
    constructor
    · rintro rfl
      exact ⟨rfl, h.2⟩
    · exact fun ht => ht.1
  · rename_i h
    rw [Bool.and_eq_true] at h
    simp only [reduceCtorEq, false_iff]
    rintro ⟨hd, rfl, ht⟩
    exact h ⟨hd, ht⟩

theorem consolidate_eq (f : Forest) :
    f.consolidate = (f.closed.toList.filterMap f.foldsInto?).eraseDups := by
  unfold consolidate
  congr 1
  induction f.closed.toList with
  | nil => rfl
  | cons id rest ih =>
    cases hmatched : f.isMatched id with
    | false => simpa [hmatched, foldsInto?] using ih
    | true =>
      cases hclosed : f.isClosed (f.outermostMatched id) with
      | false => simpa [hmatched, hclosed, foldsInto?] using ih
      | true => simpa [hmatched, hclosed, foldsInto?] using ih

theorem nodup_consolidate (f : Forest) : f.consolidate.Nodup := by
  rw [consolidate_eq]
  exact nodup_eraseDups _

/-- The results are the waiting scopes that are marked and have no marked parent. -/
theorem mem_consolidate_iff (hf : f.WellFormed) :
    t ∈ f.consolidate ↔ t ∈ f.closed.toList ∧ f.isMatched t = true ∧ f.StopsAt t := by
  rw [consolidate_eq, List.mem_eraseDups, List.mem_filterMap]
  constructor
  · rintro ⟨d, hd, hfold⟩
    rcases foldsInto?_eq_some_iff.1 hfold with ⟨hmatched, rfl, hclosed⟩
    rcases outermostMatched_spec hf.parentsOlder d with ⟨hstop, hkeep, hup⟩
    refine ⟨?_, hkeep hmatched, hstop⟩
    rcases hup with hup | hup
    · rw [hup]
      exact hd
    · -- what is around a waiting scope and closed waits too
      rcases hf.closed_upward hd hup with hwaits | hopen
      · exact hwaits
      · have hlt := hf.lt_size_of_mem_openStack hopen
        exact absurd hopen ((hf.isClosed_iff hlt).1 hclosed)
  · rintro ⟨ht, hmatched, hstop⟩
    refine ⟨t, ht, foldsInto?_eq_some_iff.2 ⟨hmatched, outermostMatched_of_stopsAt hstop, ?_⟩⟩
    exact hf.isClosed_of_mem_closed ht

/-- Where the first waiting scope stands that an unbroken line leads up from to a given one. -/
def firstFold (f : Forest) (marked : ScopeId → Bool) (t : ScopeId) : Nat :=
  f.closed.toList.findIdx fun d => (f.unbrokenLine marked d).contains t

/-- Every result has a first waiting scope that is folded into it, which is the result itself or a
scope inside it. -/
theorem getElem?_firstFold (hf : f.WellFormed) (ht : t ∈ f.consolidate) :
    ∃ d, f.closed.toList[f.firstFold f.isMatched t]? = some d ∧ (t = d ∨ f.Ancestor t d) := by
  rcases (mem_consolidate_iff hf).1 ht with ⟨hwaits, hmatched, hstop⟩
  have hself : t ∈ f.unbrokenLine f.isMatched t := by
    rw [mem_unbrokenLine_iff hf.parentsOlder hstop]
    exact ⟨hmatched, outermostMatched_of_stopsAt hstop⟩
  have hlt : f.firstFold f.isMatched t < f.closed.toList.length :=
    List.findIdx_lt_length.2 ⟨t, hwaits, List.contains_iff_mem.2 hself⟩
  have hline := List.findIdx_getElem (w := hlt)
  have hmem := (List.takeWhile_sublist _).subset (List.contains_iff_mem.1 hline)
  exact ⟨_, List.getElem?_eq_getElem hlt, eq_or_ancestor_of_mem_wayUp hmem⟩

/-- The results stand in the order of the first waiting scopes that are folded into them. -/
theorem pairwise_consolidate (hf : f.WellFormed) :
    f.consolidate.Pairwise fun t u => f.firstFold f.isMatched t < f.firstFold f.isMatched u := by
  have hfirst : ∀ {t : Nat}, t ∈ f.consolidate →
      f.closed.toList.findIdx (fun d => f.foldsInto? d == some t) = f.firstFold f.isMatched t := by
    intro t ht
    rcases (mem_consolidate_iff hf).1 ht with ⟨hwaits, -, hstop⟩
    have hclosed : f.isClosed t = true := hf.isClosed_of_mem_closed hwaits
    unfold firstFold
    congr 1
    funext d
    rw [Bool.eq_iff_iff, beq_iff_eq, List.contains_iff_mem, foldsInto?_eq_some_iff,
      mem_unbrokenLine_iff hf.parentsOlder hstop]
    simp [hclosed]
  have hpairs := pairwise_eraseDups_filterMap f.foldsInto? f.closed.toList
  rw [← consolidate_eq] at hpairs
  refine hpairs.imp_of_mem fun ht hu htu => ?_
  rw [hfirst ht, hfirst hu] at htu
  exact htu

/-- The scope is to be reported: it is marked, and it has no marked parent. -/
def isOutermost (f : Forest) (marked : ScopeId → Bool) (id : ScopeId) : Bool :=
  marked id && !(f.parent? id).any marked

theorem isOutermost_iff : f.isOutermost f.isMatched id = true ↔
    f.isMatched id = true ∧ f.StopsAt id := by
  unfold isOutermost StopsAt
  cases f.parent? id with
  | none => simp
  | some p => simp

theorem isOutermost_unmarked (f : Forest) : f.unmarked.isOutermost = f.isOutermost := by
  unfold isOutermost
  rw [parent?_unmarked]

theorem firstFold_unmarked (f : Forest) : f.unmarked.firstFold = f.firstFold := by
  unfold firstFold unbrokenLine
  simp only [closed_unmarked, lineage_unmarked]

/-- Consolidating sorts the scopes that are to be reported by the first waiting scopes that are
folded into them. -/
theorem consolidate_eq_mergeSort (hf : f.WellFormed) :
    f.consolidate = (f.closed.toList.filter (f.isOutermost f.isMatched)).mergeSort fun t u =>
      f.firstFold f.isMatched t ≤ f.firstFold f.isMatched u := by
  let key := f.firstFold f.isMatched
  let unsorted := f.closed.toList.filter (f.isOutermost f.isMatched)
  have hsorted : (unsorted.mergeSort fun t u => key t ≤ key u).Pairwise
      fun t u => key t ≤ key u := by
    refine (List.pairwise_mergeSort ?_ ?_ unsorted).imp of_decide_eq_true
    · intro a b c hab hbc
      exact decide_eq_true (Nat.le_trans (of_decide_eq_true hab) (of_decide_eq_true hbc))
    · intro a b
      rcases Nat.le_total (key a) (key b) with h | h
      · simp [h]
      · simp [h]
  have hkeys : f.consolidate.Pairwise fun t u => key t < key u := pairwise_consolidate hf
  have hperm : f.consolidate.Perm unsorted := by
    refine (List.perm_ext_iff_of_nodup (nodup_consolidate f) (hf.closed_nodup.filter _)).2 ?_
    intro t
    rw [mem_consolidate_iff hf, List.mem_filter, isOutermost_iff]
  have hperm' : f.consolidate.Perm (unsorted.mergeSort fun t u => key t ≤ key u) :=
    hperm.trans (List.mergeSort_perm unsorted _).symm
  have hconsolidated : f.consolidate.Pairwise fun t u => key t ≤ key u := hkeys.imp Nat.le_of_lt
  -- no two results have the same key, so there is one way to sort them
  have hkey : ∀ t u, t ∈ f.consolidate → u ∈ unsorted.mergeSort (fun t u => key t ≤ key u) →
      key t ≤ key u → key u ≤ key t → t = u := by
    intro t u ht hu htu hut
    by_contra hne
    have hdistinct : f.consolidate.Pairwise fun t u => key t ≠ key u := hkeys.imp Nat.ne_of_lt
    have hsymm : Std.Symm fun t u => key t ≠ key u := ⟨fun _ _ => Ne.symm⟩
    exact hdistinct.forall ht (hperm'.mem_iff.2 hu) hne (Nat.le_antisymm htu hut)
  exact hperm'.eq_of_pairwise hkey hconsolidated hsorted

end ScopeSearch.Forest
