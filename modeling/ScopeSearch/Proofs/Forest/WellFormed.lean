import ScopeSearch.Proofs.Forest.Marking

/-!
# ScopeSearch.Proofs.Forest.WellFormed — what holds of every forest

A forest keeps three things in step: the links between its scopes, the stack of the open ones and
the list of the closed ones that wait to be flushed. `WellFormed` says how they fit together, and

* `WellFormed.read`, `WellFormed.apply` — reading markers keeps it, whatever their order and places;
* `WellFormed.mark`, `WellFormed.flushClosed`, `WellFormed.release` — so do the other operations,
  in every order, also a flush while scopes are open.
-/

namespace ScopeSearch.Forest

variable {f g : Forest} {a b c p id top : Nat} {s : Scope} {m : Marker}

/-- The links, the open scopes and the closed scopes of a forest fit together. -/
structure WellFormed (f : Forest) : Prop where
  /-- The scope around a scope has the smaller id. -/
  parentsOlder : f.ParentsOlder
  /-- The children of a scope are the scopes directly inside it, in the order they opened. -/
  children_eq : ∀ ⦃p s⦄, f.find? p = some s →
    s.children.toList = (List.range f.size).filter fun c => f.parent? c = some p
  /-- Each open scope stands directly in the next, and the outermost one in none. -/
  stacked : f.Stacked f.openStack
  /-- A scope has no closer just if it is one of the open ones. -/
  closer_eq_none_iff : ∀ ⦃id s⦄, f.find? id = some s → (s.closer = none ↔ id ∈ f.openStack)
  /-- No closed scope waits twice. -/
  closed_nodup : f.closed.toList.Nodup
  /-- A waiting scope is closed by the partner of its opener. -/
  closed_partner : ∀ ⦃id⦄, id ∈ f.closed.toList → ∃ s closer, f.find? id = some s ∧
    s.closer = some closer ∧ closer.delimiter = s.opener.delimiter.partner
  /-- A waiting scope stands before the scopes around it. -/
  closed_inner_first : f.closed.toList.Pairwise fun earlier later => ¬ f.Ancestor earlier later
  /-- With a waiting scope wait all the closed scopes around it. -/
  closed_upward : ∀ ⦃a b⦄, b ∈ f.closed.toList → f.Ancestor a b →
    a ∈ f.closed.toList ∨ a ∈ f.openStack

theorem wellFormed_empty : WellFormed Forest.empty where
  parentsOlder := fun c p hp => by cases hp
  children_eq := fun p s hs => by cases hs
  stacked := trivial
  closer_eq_none_iff := fun id s hs => by cases hs
  closed_nodup := List.nodup_nil
  closed_partner := fun id hid => absurd hid List.not_mem_nil
  closed_inner_first := .nil
  closed_upward := fun a b hb => absurd hb List.not_mem_nil

/-- The scopes directly inside a scope after one more has opened inside the innermost open one. -/
theorem filter_parent?_openScope (f : Forest) (m : Marker) (p : Nat) :
    ((List.range (f.size + 1)).filter fun c => (f.openScope m).parent? c = some p) =
      ((List.range f.size).filter fun c => f.parent? c = some p) ++
        if f.openStack.head? = some p then [f.size] else [] := by
  rw [List.range_succ, List.filter_append]
  congr 1
  · apply List.filter_congr
    intro c hc
    rw [parent?_openScope_of_lt m (List.mem_range.1 hc)]
  · have hnew : (f.openScope m).parent? f.size = f.openStack.head? := by
      rw [parent?_openScope, if_pos rfl]
    by_cases hp : f.openStack.head? = some p
    · simp [hnew, hp]
    · simp [hnew, hp]

namespace WellFormed

/-! ## Looking at a well-formed forest -/

theorem lt_size_of_mem_openStack (hf : f.WellFormed) (hid : id ∈ f.openStack) : id < f.size :=
  hf.stacked.lt_size id hid

theorem lt_size_of_mem_closed (hf : f.WellFormed) (hid : id ∈ f.closed.toList) : id < f.size := by
  rcases hf.closed_partner hid with ⟨s, -, hs, -, -⟩
  exact lt_size_of_find? hs

/-- No waiting scope is open. -/
theorem not_mem_openStack (hf : f.WellFormed) (hid : id ∈ f.closed.toList) : id ∉ f.openStack := by
  intro hopen
  rcases hf.closed_partner hid with ⟨s, closer, hs, hcloser, -⟩
  rw [(hf.closer_eq_none_iff hs).2 hopen] at hcloser
  cases hcloser

theorem isClosed_iff (hf : f.WellFormed) (hid : id < f.size) :
    f.isClosed id = true ↔ id ∉ f.openStack := by
  obtain ⟨s, hs⟩ := exists_find? hid
  rw [← hf.closer_eq_none_iff hs]
  cases hcloser : s.closer <;> simp [isClosed, Scope.isOpen, hs, hcloser]

theorem isClosed_of_mem_closed (hf : f.WellFormed) (hid : id ∈ f.closed.toList) :
    f.isClosed id = true :=
  (hf.isClosed_iff (hf.lt_size_of_mem_closed hid)).2 (hf.not_mem_openStack hid)

/-- What is around an open scope is open. -/
theorem mem_openStack_of_ancestor (hf : f.WellFormed) (hb : b ∈ f.openStack)
    (hab : f.Ancestor a b) : a ∈ f.openStack :=
  hf.stacked.mem_of_ancestor hb hab

/-! ## Reading markers -/

theorem lt_size_of_head? (hf : f.WellFormed) (hp : f.openStack.head? = some p) : p < f.size :=
  hf.lt_size_of_mem_openStack (List.mem_of_mem_head? hp)

theorem parentsOlder_openScope (hf : f.WellFormed) : (f.openScope m).ParentsOlder := by
  intro c p hp
  rw [parent?_openScope] at hp
  split at hp
  · rename_i hc
    rw [hc]
    exact hf.lt_size_of_head? hp
  · exact hf.parentsOlder hp

theorem openScope (hf : f.WellFormed) (m : Marker) : (f.openScope m).WellFormed := by
  have hancestor : ∀ {a b : Nat}, b ∈ f.closed.toList →
      ((f.openScope m).Ancestor a b ↔ f.Ancestor a b) := fun hb =>
    ancestor_openScope hf.parentsOlder m (hf.lt_size_of_mem_closed hb)
  constructor
  case parentsOlder => exact hf.parentsOlder_openScope
  case children_eq =>
    intro p s hs
    rw [size_openScope, filter_parent?_openScope]
    rw [find?_openScope] at hs
    split at hs
    · -- the new scope: nothing has opened inside it
      rename_i hp
      cases hs
      subst hp
      have hnone : ((List.range f.size).filter fun c => f.parent? c = some f.size) = [] := by
        rw [List.filter_eq_nil_iff]
        intro c hc hparent
        have hlt : f.size < c := hf.parentsOlder (of_decide_eq_true hparent)
        exact Nat.lt_asymm hlt (List.mem_range.1 hc)
      have hhead : ¬ f.openStack.head? = some f.size := fun h =>
        Nat.lt_irrefl _ (hf.lt_size_of_head? h)
      rw [hnone, if_neg hhead]
      rfl
    · split at hs
      · rename_i hp
        obtain ⟨t, ht, rfl⟩ := Option.map_eq_some_iff.1 hs
        rw [if_pos hp, Array.toList_push, hf.children_eq ht]
      · rename_i hp
        rw [if_neg hp, List.append_nil, hf.children_eq hs]
  case stacked =>
    refine ⟨by simp, ?_, ?_⟩
    · rw [parent?_openScope, if_pos rfl]
    · refine hf.stacked.congr fun id hid => ⟨?_, parent?_openScope_of_lt m hid⟩
      rw [size_openScope]
      exact Nat.lt_succ_of_lt hid
  case closer_eq_none_iff =>
    intro id s hs
    show s.closer = none ↔ id ∈ f.size :: f.openStack
    rw [find?_openScope] at hs
    split at hs
    · -- the new scope is open and on top of the stack
      rename_i hid
      cases hs
      simp [Scope.opened, hid]
    · rename_i hid
      rw [List.mem_cons, or_iff_right hid]
      split at hs
      · obtain ⟨t, ht, rfl⟩ := Option.map_eq_some_iff.1 hs
        have hiff := hf.closer_eq_none_iff ht
        exact hiff
      · exact hf.closer_eq_none_iff hs
  case closed_nodup => exact hf.closed_nodup
  case closed_partner =>
    intro id hid
    rcases hf.closed_partner hid with ⟨s, closer, hs, hcloser, hpartner⟩
    -- a waiting scope is not the new one; it may have got a child
    have hne : id ≠ f.size := Nat.ne_of_lt (lt_size_of_find? hs)
    rw [find?_openScope, if_neg hne]
    split
    · exact ⟨{ s with children := s.children.push f.size }, closer, by simp [hs], hcloser, hpartner⟩
    · exact ⟨s, closer, hs, hcloser, hpartner⟩
  case closed_inner_first =>
    refine hf.closed_inner_first.imp_of_mem fun _ hlater hnot h => hnot ?_
    exact (hancestor hlater).1 h
  case closed_upward =>
    intro a b hb hab
    rcases hf.closed_upward hb ((hancestor hb).1 hab) with ha | ha
    · exact .inl ha
    · exact .inr (List.mem_cons_of_mem _ ha)

theorem closeInnermost (hf : f.WellFormed) {outer : List ScopeId}
    (hstack : f.openStack = top :: outer) (hs : f.find? top = some s)
    (hpartner : s.opener.delimiter.partner = m.delimiter) :
    (f.closeInnermost m).WellFormed := by
  have hparent := parent?_closeInnermost f m
  have hancestor := ancestor_congr hparent
  have hstacked : f.Stacked (top :: outer) := hstack ▸ hf.stacked
  have htop : top ∈ f.openStack := by simp [hstack]
  have hhead : f.openStack.head? = some top := by simp [hstack]
  have hopen : (f.closeInnermost m).openStack = outer := by simp [hstack]
  have hclosed : (f.closeInnermost m).closed.toList = f.closed.toList ++ [top] := by simp [hstack]
  have hfind : ∀ id, (f.closeInnermost m).find? id =
      if top = id then (f.find? id).map fun s => { s with closer := some m } else f.find? id := by
    intro id
    rw [find?_closeInnermost, hhead]
    simp only [Option.some.injEq]
  constructor
  case parentsOlder =>
    intro c p hp
    rw [hparent] at hp
    exact hf.parentsOlder hp
  case children_eq =>
    intro p t ht
    rw [size_closeInnermost, hparent]
    rw [hfind] at ht
    split at ht
    · obtain ⟨u, hu, rfl⟩ := Option.map_eq_some_iff.1 ht
      have hchildren := hf.children_eq hu
      exact hchildren
    · exact hf.children_eq ht
  case stacked =>
    rw [hopen]
    refine hstacked.2.2.congr fun id hid => ⟨?_, by rw [hparent]⟩
    rw [size_closeInnermost]
    exact hid
  case closer_eq_none_iff =>
    intro id t ht
    rw [hopen]
    rw [hfind] at ht
    split at ht
    · rename_i hid
      obtain ⟨u, hu, rfl⟩ := Option.map_eq_some_iff.1 ht
      -- the scope that closes now leaves the stack for good
      have hnot : id ∉ outer := by
        intro hmem
        rw [← hid] at hmem
        exact not_ancestor_self hf.parentsOlder (hstacked.ancestor_iff.2 hmem)
      simp [hnot]
    · rename_i hid
      rw [hf.closer_eq_none_iff ht, hstack, List.mem_cons, or_iff_right (Ne.symm hid)]
  case closed_nodup =>
    -- the scope that closes now was open, so it did not wait
    rw [hclosed, List.nodup_append]
    refine ⟨hf.closed_nodup, by simp, ?_⟩
    intro id hid other hother heq
    rw [List.mem_singleton.1 hother] at heq
    exact hf.not_mem_openStack hid (heq ▸ htop)
  case closed_partner =>
    intro id hid
    rw [hclosed, List.mem_append, List.mem_singleton] at hid
    rw [hfind]
    rcases hid with hid | rfl
    · have hne : ¬ top = id := fun h => hf.not_mem_openStack hid (h ▸ htop)
      rw [if_neg hne]
      exact hf.closed_partner hid
    · exact ⟨{ s with closer := some m }, m, by simp [hs], rfl, hpartner.symm⟩
  case closed_inner_first =>
    -- what is around an open scope is open, so no waiting scope is around the one that closes now
    rw [hclosed, hancestor, List.pairwise_append]
    refine ⟨hf.closed_inner_first, List.pairwise_singleton _ _, ?_⟩
    intro id hid other hother hab
    rw [List.mem_singleton.1 hother] at hab
    exact hf.not_mem_openStack hid (hf.mem_openStack_of_ancestor htop hab)
  case closed_upward =>
    intro a b hb hab
    rw [hclosed] at hb ⊢
    rw [hancestor] at hab
    rw [hopen]
    rw [List.mem_append, List.mem_singleton] at hb ⊢
    rcases hb with hb | rfl
    · -- what is around a waiting scope waits, closes now or stays open
      rcases hf.closed_upward hb hab with ha | ha
      · exact .inl (.inl ha)
      · rw [hstack, List.mem_cons] at ha
        rcases ha with rfl | ha
        · exact .inl (.inr rfl)
        · exact .inr ha
    · exact .inr (hstacked.ancestor_iff.1 hab)

theorem read (hf : f.WellFormed) (m : Marker) : (f.read m).1.WellFormed := by
  rcases f.read_cases m with
    ⟨-, hread⟩ | ⟨-, hread⟩ | ⟨-, hread, top, outer, s, hstack, hs, hpartner⟩
  · rw [hread]
    exact hf.openScope m
  · rw [hread]
    exact hf
  · rw [hread]
    exact hf.closeInnermost hstack hs hpartner

theorem apply (hf : f.WellFormed) (markers : List Marker) : (f.apply markers).WellFormed :=
  apply_induction (fun _ m hf => hf.read m) hf markers

/-! ## Marking, flushing, releasing -/

/-- Marks do not matter to the way a forest fits together. -/
theorem of_unmarked_eq (hf : f.WellFormed) (hg : g.unmarked = f.unmarked) : g.WellFormed := by
  have hparent := parent?_eq_of_unmarked_eq hg
  have hancestor := ancestor_congr hparent
  have hsize := size_eq_of_unmarked_eq hg
  have hopen := openStack_eq_of_unmarked_eq hg
  have hclosed := closed_eq_of_unmarked_eq hg
  constructor
  case parentsOlder =>
    intro c p hp
    rw [hparent] at hp
    exact hf.parentsOlder hp
  case children_eq =>
    intro p t ht
    rcases find?_of_unmarked_eq hg ht with ⟨s, hs, hchildren, -, -⟩
    rw [hsize, hparent, ← hchildren]
    exact hf.children_eq hs
  case stacked =>
    rw [hopen]
    refine hf.stacked.congr fun id hid => ⟨?_, by rw [hparent]⟩
    rw [hsize]
    exact hid
  case closer_eq_none_iff =>
    intro id t ht
    rcases find?_of_unmarked_eq hg ht with ⟨s, hs, -, -, hcloser⟩
    rw [hopen, ← hcloser]
    exact hf.closer_eq_none_iff hs
  case closed_nodup =>
    rw [hclosed]
    exact hf.closed_nodup
  case closed_partner =>
    intro id hid
    rw [hclosed] at hid
    rcases hf.closed_partner hid with ⟨s, closer, hs, hcloser, hpartner⟩
    have hid' : id < g.size := by
      rw [hsize]
      exact lt_size_of_find? hs
    obtain ⟨t, ht⟩ := exists_find? hid'
    rcases find?_of_unmarked_eq hg ht with ⟨s', hs', -, hopener, hsame⟩
    obtain rfl : s = s' := Option.some.inj (hs.symm.trans hs')
    exact ⟨t, closer, ht, hsame ▸ hcloser, hopener ▸ hpartner⟩
  case closed_inner_first =>
    rw [hclosed, hancestor]
    exact hf.closed_inner_first
  case closed_upward =>
    intro a b hb hab
    rw [hclosed] at hb ⊢
    rw [hancestor] at hab
    rw [hopen]
    exact hf.closed_upward hb hab

theorem mark (hf : f.WellFormed) (n : Nat) (id : ScopeId) : (f.mark n id).1.WellFormed :=
  hf.of_unmarked_eq (unmarked_mark f n id)

theorem flushClosed (hf : f.WellFormed) : f.flushClosed.2.WellFormed where
  parentsOlder := hf.parentsOlder
  children_eq := hf.children_eq
  stacked := hf.stacked.congr fun _ hid => ⟨hid, rfl⟩
  closer_eq_none_iff := hf.closer_eq_none_iff
  closed_nodup := List.nodup_nil
  closed_partner := fun _ hid => absurd hid List.not_mem_nil
  closed_inner_first := .nil
  closed_upward := fun _ _ hb => absurd hb List.not_mem_nil

end WellFormed

/-- Releasing drops everything or nothing. -/
theorem release_eq (f : Forest) :
    f.release = if f.openStack = [] ∧ f.closed = #[] then Forest.empty else f := by
  rcases f with ⟨scopes, openStack, closed⟩
  unfold release
  simp only [Bool.and_eq_true, List.isEmpty_iff, Array.isEmpty_iff]
  split
  · rename_i h
    rcases h with ⟨rfl, rfl⟩
    rfl
  · rfl

theorem WellFormed.release (hf : f.WellFormed) : f.release.WellFormed := by
  rw [release_eq]
  split
  · exact wellFormed_empty
  · exact hf

end ScopeSearch.Forest
