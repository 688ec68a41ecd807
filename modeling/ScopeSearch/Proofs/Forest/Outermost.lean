import ScopeSearch.Proofs.Forest.Reported

/-!
# ScopeSearch.Proofs.Forest.Outermost — how the reports of a flush lie to each other

As long as markers are read in the order of their places, scopes wait in the order of their closers
(`ClosedInOrder`). Of two scopes that a flush reports,

* `exists_unmarked_between` — if one is around the other, an unmarked scope stands in between;
* `Laminar.lt_of_firstFold_lt` — if none is around the other, they are reported in the order they
  open.

If everything around a marked scope is marked (`MarkedUpward`) and nothing is open, then

* `consolidate_eq_filter` — the results are the marked scopes that stand in no other one, in the
  order they open;
* `Laminar.pairwise_reports` — and the range of each of them ends before the next one begins.
-/

namespace ScopeSearch.Forest

variable {f g : Forest} {a b id next t top u : Nat} {ids outer : List ScopeId} {m : Marker}
  {markers : List Marker} {r r' : Report}

/-! ## Waiting in the order of closers -/

/-- Of two waiting scopes, the one that waits first has closed first. -/
def ClosedInOrder (f : Forest) : Prop :=
  f.closed.toList.Pairwise fun a b => ∀ ⦃s t c d⦄, f.find? a = some s → f.find? b = some t →
    c ∈ s.closer → d ∈ t.closer → c.position < d.position

theorem closedInOrder_empty : ClosedInOrder Forest.empty := .nil

namespace ClosedInOrder

theorem of_unmarked_eq (h : f.ClosedInOrder) (hg : g.unmarked = f.unmarked) :
    g.ClosedInOrder := by
  unfold ClosedInOrder
  rw [closed_eq_of_unmarked_eq hg]
  refine h.imp ?_
  intro a b hab s t c d hs ht hc hd
  rcases find?_of_unmarked_eq hg hs with ⟨s', hs', -, -, hcloser⟩
  rcases find?_of_unmarked_eq hg ht with ⟨t', ht', -, -, hcloser'⟩
  rw [← hcloser] at hc
  rw [← hcloser'] at hd
  exact hab hs' ht' hc hd

theorem openScope (h : f.ClosedInOrder) (hf : f.WellFormed) (m : Marker) :
    (f.openScope m).ClosedInOrder := by
  -- a waiting scope is not the one that opens, so it has its closer as before
  have hold : ∀ {a : Nat} {s}, a ∈ f.closed.toList → (f.openScope m).find? a = some s →
      ∃ s', f.find? a = some s' ∧ s.closer = s'.closer := by
    intro a s ha hs
    have hlt := hf.lt_size_of_mem_closed ha
    rcases find?_openScope_cases hs with ⟨hnew, -, -⟩ | ⟨-, s', hs', -, hcloser⟩
    · omega
    · exact ⟨s', hs', hcloser⟩
  refine h.imp_of_mem ?_
  intro a b ha hb hab s t c d hs ht hc hd
  rcases hold ha hs with ⟨s', hs', hcloser⟩
  rcases hold hb ht with ⟨t', ht', hcloser'⟩
  rw [hcloser] at hc
  rw [hcloser'] at hd
  exact hab hs' ht' hc hd

theorem closeInnermost (h : f.ClosedInOrder) (hf : f.WellFormed) (hm : f.Before m.position)
    (hstack : f.openStack = top :: outer) : (f.closeInnermost m).ClosedInOrder := by
  have htop : top ∈ f.openStack := by simp [hstack]
  -- a waiting scope is not the one that closes, so it has its closer as before
  have hold : ∀ {a : Nat} {s}, a ∈ f.closed.toList → (f.closeInnermost m).find? a = some s →
      ∃ s', f.find? a = some s' ∧ s.closer = s'.closer := by
    intro a s ha hs
    rcases find?_closeInnermost_cases hstack hs with ⟨s', hs', -, ⟨rfl, -⟩ | ⟨-, hcloser⟩⟩
    · exact absurd htop (hf.not_mem_openStack ha)
    · exact ⟨s', hs', hcloser⟩
  unfold ClosedInOrder
  rw [closed_closeInnermost, hstack, List.head?_cons, Option.toList_some, List.pairwise_append]
  refine ⟨h.imp_of_mem ?_, List.pairwise_singleton _ _, ?_⟩
  · intro a b ha hb hab s t c d hs ht hc hd
    rcases hold ha hs with ⟨s', hs', hcloser⟩
    rcases hold hb ht with ⟨t', ht', hcloser'⟩
    rw [hcloser] at hc
    rw [hcloser'] at hd
    exact hab hs' ht' hc hd
  · intro a ha b hb s t c d hs ht hc hd
    rw [List.mem_singleton] at hb
    subst hb
    rcases hold ha hs with ⟨s', hs', hcloser⟩
    rcases find?_closeInnermost_cases hstack ht with ⟨t', -, -, ⟨-, hnew⟩ | ⟨hne, -⟩⟩
    · -- the marker that closes the last scope stands after all others
      rw [hcloser] at hc
      rw [hnew] at hd
      cases hd
      exact (hm hs').2 c hc
    · exact absurd rfl hne

theorem read (h : f.ClosedInOrder) (hf : f.WellFormed) (hm : f.Before m.position) :
    (f.read m).1.ClosedInOrder := by
  rcases f.read_cases m with ⟨-, hread⟩ | ⟨-, hread⟩ | ⟨-, hread, top, outer, s, hstack, -⟩
  · rw [hread]
    exact h.openScope hf m
  · rw [hread]
    exact h
  · rw [hread]
    exact h.closeInnermost hf hm hstack

theorem apply (h : f.ClosedInOrder) (hf : f.WellFormed)
    (hbefore : ∀ m ∈ markers, f.Before m.position)
    (hsorted : markers.Pairwise fun m m' => m.position < m'.position) :
    (f.apply markers).ClosedInOrder :=
  apply_induction_in_order (fun _ _ hf hm h => h.read hf hm) h hf hbefore hsorted

end ClosedInOrder

theorem ReadInOrder.closedInOrder (h : ReadInOrder next f) : f.ClosedInOrder := by
  induction h with
  | nothing => exact closedInOrder_empty
  | line hf text number hnumber ih =>
    rcases hf.laminar with ⟨hwf, -, hbefore⟩
    exact ih.apply hwf (fun m hm => hbefore.of_mem_onLine hnumber hm)
      (Marker.pairwise_onLine text number)
  | @marking next f _ count id ih => exact ih.of_unmarked_eq (unmarked_mark f count id)

/-! ## Results around one another -/

/-- Of two results one of which is around the other, an unmarked scope stands in between. -/
theorem exists_unmarked_between (hf : f.WellFormed) (ha : a ∈ f.consolidate)
    (hb : b ∈ f.consolidate) (hab : f.Ancestor a b) :
    ∃ c, f.Ancestor a c ∧ f.Ancestor c b ∧ f.isMatched c = false := by
  rcases (mem_consolidate_iff hf).1 ha with ⟨-, hmatched, -⟩
  rcases (mem_consolidate_iff hf).1 hb with ⟨-, -, hstop⟩
  -- the parent of the inner one is unmarked, so it is not the outer one
  rcases ancestor_iff.1 hab with ⟨p, hp, rfl | hap⟩
  · have hunmatched := hstop a hp
    rw [hmatched] at hunmatched
    cases hunmatched
  · exact ⟨p, hap, ancestor_of_parent? hp, hstop p hp⟩

/-- The two ranges belong to scopes one of which is around the other, with an unmarked scope
strictly between them. -/
def SkipsUnmarked (f : Forest) (outer inner : Report) : Prop :=
  ∃ a b c s t, f.find? a = some s ∧ s.report = outer ∧ f.find? b = some t ∧ t.report = inner ∧
    f.Ancestor a c ∧ f.Ancestor c b ∧ f.isMatched c = false

/-- If one report of a flush lies strictly inside another, they skip an unmarked scope. -/
theorem Laminar.skipsUnmarked (hl : f.Laminar) (hf : f.WellFormed)
    (hr : r ∈ f.reports f.consolidate) (hr' : r' ∈ f.reports f.consolidate)
    (hnested : r.StrictlyContains r') : f.SkipsUnmarked r r' := by
  rcases mem_reports_iff.1 hr with ⟨a, ha, s, hs, rfl⟩
  rcases mem_reports_iff.1 hr' with ⟨b, hb, t, ht, rfl⟩
  have hab := (hl.strictlyContains_iff hf.parentsOlder hs ht).1 hnested
  rcases exists_unmarked_between hf ha hb hab with ⟨c, hac, hcb, hc⟩
  exact ⟨a, b, c, s, t, hs, rfl, ht, rfl, hac, hcb, hc⟩

/-! ## Results beside one another -/

/-- The scope that a result is found by first closes no later than the result, and opens no
earlier. -/
theorem Laminar.firstFold_within (hl : f.Laminar) (hf : f.WellFormed) {s : Scope} {c : Marker}
    (ht : t ∈ f.consolidate) (hs : f.find? t = some s) (hc : c ∈ s.closer) :
    ∃ first s' c', f.closed.toList[f.firstFold f.isMatched t]? = some first ∧
      f.find? first = some s' ∧ c' ∈ s'.closer ∧
      s.opener.position < c'.position ∧ c'.position ≤ c.position := by
  obtain ⟨first, hfirst, hup⟩ := getElem?_firstFold hf ht
  have hmem : first ∈ f.closed.toList := List.mem_of_getElem? hfirst
  rcases hf.closed_partner hmem with ⟨s', c', hs', hc', -⟩
  have hopener' := hl.opener_lt_closer hs' (Option.mem_def.2 hc')
  refine ⟨first, s', c', hfirst, hs', hc', ?_⟩
  rcases hup with rfl | hancestor
  · rw [Option.some.inj (hs.symm.trans hs')] at hc ⊢
    rw [Option.mem_unique hc (Option.mem_def.2 hc')]
    exact ⟨hopener', Position.le_iff_lt_or_eq.2 (.inr rfl)⟩
  · have hopener := hl.opener_lt hs hs' (hancestor.lt hf.parentsOlder)
    rcases hl.closer_lt_of_ancestor hs hs' hancestor hc with ⟨d, hd, hdc⟩
    rw [Option.mem_unique hd (Option.mem_def.2 hc')] at hdc
    exact ⟨Position.lt_trans hopener hopener', Position.le_iff_lt_or_eq.2 (.inl hdc)⟩

/-- Of two results none of which is around the other, the one that comes first has opened first. -/
theorem Laminar.lt_of_firstFold_lt (hl : f.Laminar) (hf : f.WellFormed) (h : f.ClosedInOrder)
    (ht : t ∈ f.consolidate) (hu : u ∈ f.consolidate)
    (hlt : f.firstFold f.isMatched t < f.firstFold f.isMatched u) (hnot : ¬ f.Ancestor u t) :
    t < u := by
  by_contra hge
  have hne : t ≠ u := by
    rintro rfl
    exact Nat.lt_irrefl _ hlt
  have hut : u < t := by omega
  obtain ⟨s, hs⟩ := exists_find? (hf.lt_size_of_mem_closed ((mem_consolidate_iff hf).1 ht).1)
  obtain ⟨v, hv⟩ := exists_find? (hf.lt_size_of_mem_closed ((mem_consolidate_iff hf).1 hu).1)
  rcases hf.closed_partner ((mem_consolidate_iff hf).1 ht).1 with ⟨s', c, hs', hc, -⟩
  rw [← Option.some.inj (hs.symm.trans hs')] at hc
  -- the later one would have closed before the first one opens, with all that lies inside it
  rcases hl.closer_lt_opener hv hs hut hnot with ⟨d, hd, hds⟩
  rcases hl.firstFold_within hf ht hs (Option.mem_def.2 hc) with
    ⟨first, s₁, c₁, hfirst, hs₁, hc₁, hopener, -⟩
  rcases hl.firstFold_within hf hu hv hd with ⟨second, s₂, c₂, hsecond, hs₂, hc₂, -, hcloser⟩
  have hwaited : c₁.position < c₂.position := by
    obtain ⟨hi, hfirst⟩ := List.getElem?_eq_some_iff.1 hfirst
    obtain ⟨hj, hsecond⟩ := List.getElem?_eq_some_iff.1 hsecond
    have hpair := List.pairwise_iff_getElem.1 h _ _ hi hj hlt
    rw [hfirst, hsecond] at hpair
    exact hpair hs₁ hs₂ hc₁ hc₂
  have hback := Position.lt_trans (Position.lt_trans hds hopener) hwaited
  exact absurd hcloser (by rw [Position.not_le]; exact hback)

/-! ## Outermost scopes -/

/-- Everything around a marked scope is marked. -/
def MarkedUpward (f : Forest) : Prop :=
  ∀ ⦃id p : Nat⦄, f.parent? id = some p → f.isMatched id = true → f.isMatched p = true

theorem MarkedUpward.stopsAt_iff (h : f.MarkedUpward) (hid : f.isMatched id = true) :
    f.StopsAt id ↔ f.parent? id = none := by
  constructor
  · intro hstop
    cases hp : f.parent? id with
    | none => rfl
    | some p =>
      have hunmatched := hstop p hp
      rw [h hp hid] at hunmatched
      cases hunmatched
  · exact stopsAt_of_root

/-- With nothing open and everything marked around a marked scope, the results are the marked scopes
that stand in no other one, in the order they open. -/
theorem consolidate_eq_filter (hf : f.WellFormed) (hl : f.Laminar) (h : f.ClosedInOrder)
    (hu : f.Unflushed) (hopen : f.openStack = []) (hup : f.MarkedUpward) :
    f.consolidate =
      (List.range f.size).filter fun id => (f.parent? id).isNone && f.isMatched id := by
  have hmem : ∀ id : Nat, id ∈ f.consolidate ↔
      id < f.size ∧ f.parent? id = none ∧ f.isMatched id = true := by
    intro id
    rw [mem_consolidate_iff hf]
    constructor
    · rintro ⟨hwaits, hmatched, hstop⟩
      exact ⟨hf.lt_size_of_mem_closed hwaits, (hup.stopsAt_iff hmatched).1 hstop, hmatched⟩
    · rintro ⟨hid, hroot, hmatched⟩
      have hlisted := hu hid
      rw [hopen, List.append_nil] at hlisted
      exact ⟨hlisted, hmatched, stopsAt_of_root hroot⟩
  have hsorted : f.consolidate.Pairwise fun t u : Nat => t < u := by
    refine (pairwise_consolidate hf).imp_of_mem ?_
    intro t u ht hu hlt
    have hroot := ((hmem t).1 ht).2.1
    exact hl.lt_of_firstFold_lt hf h ht hu hlt (not_ancestor_of_root hroot)
  have hfilter : ((List.range f.size).filter fun id =>
      (f.parent? id).isNone && f.isMatched id).Pairwise fun t u : Nat => t < u :=
    List.pairwise_lt_range.filter _
  have hperm : f.consolidate.Perm
      ((List.range f.size).filter fun id => (f.parent? id).isNone && f.isMatched id) := by
    refine (List.perm_ext_iff_of_nodup (nodup_consolidate f) (List.nodup_range.filter _)).2 ?_
    intro id
    rw [hmem, List.mem_filter, List.mem_range, Bool.and_eq_true, Option.isNone_iff_eq_none]
  -- there is one way to sort scopes by their ids
  refine hperm.eq_of_pairwise ?_ hsorted hfilter
  intro t u _ _ htu hut
  omega

/-- Scopes that stand in no other one, in the order they open, end one before the next begins. -/
theorem Laminar.pairwise_reports (hl : f.Laminar) (hsorted : ids.Pairwise fun t u : Nat => t < u)
    (hroots : ∀ id : Nat, id ∈ ids → f.parent? id = none) :
    (f.reports ids).Pairwise fun r r' => r.start < r'.start ∧ r.EndsBefore r' := by
  unfold reports
  rw [List.pairwise_map, List.pairwise_filterMap]
  refine hsorted.imp_of_mem ?_
  intro t u _ hu hlt s hs v hv
  have hnot : ¬ f.Ancestor t u := not_ancestor_of_root (hroots u hu)
  refine ⟨hl.opener_lt hs hv hlt, ?_⟩
  rcases hl.closer_lt_opener hs hv hlt hnot with ⟨c, hc, hcv⟩
  exact ⟨c.position, Option.mem_map_of_mem Marker.position hc, hcv⟩

end ScopeSearch.Forest
