import ScopeSearch.Proofs.Forest.WellFormed
import ScopeSearch.Proofs.Marker.Order

/-!
# ScopeSearch.Proofs.Forest.Geometry — the places of scopes and their nesting

When markers are read in the order of their places, the ranges of the scopes mirror the links
between them. `Laminar` says so by the ids of the scopes, which are given out as they open, and

* `Laminar.apply` — reading markers in order keeps it;
* `Laminar.strictlyContains_iff` — one range lies strictly inside another just if the other scope
  is around it;
* `Laminar.disjoint` — the ranges of other scopes are disjoint;
* `ranges_mirror_nesting` — so it is after any lines, read in order with any marking in between.
-/

namespace ScopeSearch

namespace Forest

variable {f g : Forest} {a b id next top : Nat} {s t : Scope} {m : Marker} {q : Position}

/-! ## Scopes and markers -/

/-- A scope after another one has opened: it is the new one, or it has its opener and closer as
before. -/
theorem find?_openScope_cases (ht : (f.openScope m).find? id = some t) :
    (id = f.size ∧ t.opener = m ∧ t.closer = none) ∨
      (id < f.size ∧ ∃ s, f.find? id = some s ∧ t.opener = s.opener ∧ t.closer = s.closer) := by
  rw [find?_openScope] at ht
  split at ht
  · rename_i hid
    cases ht
    exact .inl ⟨hid, rfl, rfl⟩
  · refine .inr ?_
    split at ht
    · obtain ⟨s, hs, rfl⟩ := Option.map_eq_some_iff.1 ht
      exact ⟨lt_size_of_find? hs, s, hs, rfl, rfl⟩
    · exact ⟨lt_size_of_find? ht, t, ht, rfl, rfl⟩

/-- A scope after the innermost open one has been closed: it is that one, or it has its closer as
before. -/
theorem find?_closeInnermost_cases {outer : List ScopeId} (hstack : f.openStack = top :: outer)
    (ht : (f.closeInnermost m).find? id = some t) :
    ∃ s, f.find? id = some s ∧ t.opener = s.opener ∧
      ((id = top ∧ t.closer = some m) ∨ (id ≠ top ∧ t.closer = s.closer)) := by
  rw [find?_closeInnermost, hstack, List.head?_cons] at ht
  split at ht
  · rename_i hid
    obtain ⟨s, hs, rfl⟩ := Option.map_eq_some_iff.1 ht
    exact ⟨s, hs, rfl, .inl ⟨(Option.some.inj hid).symm, rfl⟩⟩
  · rename_i hid
    refine ⟨t, ht, rfl, .inr ⟨?_, rfl⟩⟩
    rintro rfl
    exact hid rfl

/-- Every marker of the forest stands before the place `q`. -/
def Before (f : Forest) (q : Position) : Prop :=
  ∀ ⦃id s⦄, f.find? id = some s →
    s.opener.position < q ∧ ∀ closer ∈ s.closer, closer.position < q

theorem before_empty (q : Position) : Before Forest.empty q := by
  intro id s hs
  cases hs

theorem Before.mono {q' : Position} (hf : f.Before q) (hq : q < q') : f.Before q' := by
  intro id s hs
  rcases hf hs with ⟨hopener, hcloser⟩
  exact ⟨Position.lt_trans hopener hq, fun c hc => Position.lt_trans (hcloser c hc) hq⟩

theorem Before.of_unmarked_eq (hf : f.Before q) (hg : g.unmarked = f.unmarked) : g.Before q := by
  intro id t ht
  rcases find?_of_unmarked_eq hg ht with ⟨s, hs, -, hopener, hcloser⟩
  rw [← hopener, ← hcloser]
  exact hf hs

theorem Before.read (hf : f.Before q) (hm : m.position < q) : (f.read m).1.Before q := by
  rcases f.read_cases m with ⟨-, hread⟩ | ⟨-, hread⟩ | ⟨-, hread, top, outer, s, hstack, -⟩
  · rw [hread]
    intro id t ht
    rcases find?_openScope_cases ht with ⟨-, hopener, hcloser⟩ | ⟨-, s, hs, hopener, hcloser⟩
    · rw [hopener, hcloser]
      exact ⟨hm, fun c hc => by cases hc⟩
    · rw [hopener, hcloser]
      exact hf hs
  · rw [hread]
    exact hf
  · rw [hread]
    intro id t ht
    rcases find?_closeInnermost_cases hstack ht with ⟨s, hs, hopener, ⟨-, hcloser⟩ | ⟨-, hcloser⟩⟩
    · rw [hopener, hcloser]
      refine ⟨(hf hs).1, fun c hc => ?_⟩
      cases hc
      exact hm
    · rw [hopener, hcloser]
      exact hf hs

theorem Before.apply {markers : List Marker} (hf : f.Before q)
    (hmarkers : ∀ m ∈ markers, m.position < q) : (f.apply markers).Before q := by
  induction markers generalizing f with
  | nil => exact hf
  | cons m rest ih =>
    refine ih (hf.read (hmarkers m List.mem_cons_self)) fun m' hm' => ?_
    exact hmarkers m' (List.mem_cons_of_mem _ hm')

/-- What every marker keeps that stands after all those read so far, markers keep that stand so, in
the order of their places. -/
theorem apply_induction_in_order {motive : Forest → Prop}
    (hread : ∀ f m, f.WellFormed → f.Before m.position → motive f → motive (f.read m).1)
    {markers : List Marker} (h : motive f) (hf : f.WellFormed)
    (hbefore : ∀ m ∈ markers, f.Before m.position)
    (hsorted : markers.Pairwise fun m m' => m.position < m'.position) :
    motive (f.apply markers) := by
  induction markers generalizing f with
  | nil => exact h
  | cons m rest ih =>
    rcases List.pairwise_cons.1 hsorted with ⟨hfirst, hrest⟩
    have hm := hbefore m List.mem_cons_self
    refine ih (hread f m hf hm h) (hf.read m) (fun m' hm' => ?_) hrest
    exact (hbefore m' (List.mem_cons_of_mem _ hm')).read (hfirst m' hm')

/-! ## The invariant -/

/-- The places of the scopes mirror their nesting. -/
structure Laminar (f : Forest) : Prop where
  /-- Scopes have their ids in the order they open. -/
  opener_lt : ∀ ⦃a b : Nat⦄ ⦃s t⦄, f.find? a = some s → f.find? b = some t → a < b →
    s.opener.position < t.opener.position
  /-- A scope closes after it opens. -/
  opener_lt_closer : ∀ ⦃a s c⦄, f.find? a = some s → c ∈ s.closer →
    s.opener.position < c.position
  /-- Whatever is inside a closed scope has closed before. -/
  closer_lt_of_ancestor : ∀ ⦃a b : Nat⦄ ⦃s t c⦄, f.find? a = some s → f.find? b = some t →
    f.Ancestor a b → c ∈ s.closer → ∃ d ∈ t.closer, d.position < c.position
  /-- A scope has closed before another one opens that is not inside it. -/
  closer_lt_opener : ∀ ⦃a b : Nat⦄ ⦃s t⦄, f.find? a = some s → f.find? b = some t → a < b →
    ¬ f.Ancestor a b → ∃ c ∈ s.closer, c.position < t.opener.position

theorem laminar_empty : Laminar Forest.empty where
  opener_lt := fun _ _ _ _ hs => by cases hs
  opener_lt_closer := fun _ _ _ hs => by cases hs
  closer_lt_of_ancestor := fun _ _ _ _ _ hs => by cases hs
  closer_lt_opener := fun _ _ _ _ hs => by cases hs

namespace Laminar

theorem of_unmarked_eq (hl : f.Laminar) (hg : g.unmarked = f.unmarked) : g.Laminar := by
  have hancestor := ancestor_congr (parent?_eq_of_unmarked_eq hg)
  constructor
  case opener_lt =>
    intro a b s t hs ht hab
    rcases find?_of_unmarked_eq hg hs with ⟨s', hs', -, hopener, -⟩
    rcases find?_of_unmarked_eq hg ht with ⟨t', ht', -, hopener', -⟩
    rw [← hopener, ← hopener']
    exact hl.opener_lt hs' ht' hab
  case opener_lt_closer =>
    intro a s c hs hc
    rcases find?_of_unmarked_eq hg hs with ⟨s', hs', -, hopener, hcloser⟩
    rw [← hopener]
    exact hl.opener_lt_closer hs' (hcloser ▸ hc)
  case closer_lt_of_ancestor =>
    intro a b s t c hs ht hab hc
    rcases find?_of_unmarked_eq hg hs with ⟨s', hs', -, -, hcloser⟩
    rcases find?_of_unmarked_eq hg ht with ⟨t', ht', -, -, hcloser'⟩
    rw [hancestor] at hab
    rw [← hcloser']
    exact hl.closer_lt_of_ancestor hs' ht' hab (hcloser ▸ hc)
  case closer_lt_opener =>
    intro a b s t hs ht hab hnot
    rcases find?_of_unmarked_eq hg hs with ⟨s', hs', -, -, hcloser⟩
    rcases find?_of_unmarked_eq hg ht with ⟨t', ht', -, hopener', -⟩
    rw [hancestor] at hnot
    rw [← hcloser, ← hopener']
    exact hl.closer_lt_opener hs' ht' hab hnot

/-- Opening a scope after all markers so far. -/
theorem openScope (hl : f.Laminar) (hf : f.WellFormed) (hm : f.Before m.position) :
    (f.openScope m).Laminar := by
  have hwf := hf.openScope m
  constructor
  case opener_lt =>
    intro a b s t hs ht hab
    rcases find?_openScope_cases hs with ⟨ha, -, -⟩ | ⟨ha, s', hs', hopener, -⟩
    · have hb := lt_size_of_find? ht
      rw [size_openScope] at hb
      omega
    · rcases find?_openScope_cases ht with ⟨-, hopener', -⟩ | ⟨-, t', ht', hopener', -⟩
      · rw [hopener, hopener']
        exact (hm hs').1
      · rw [hopener, hopener']
        exact hl.opener_lt hs' ht' hab
  case opener_lt_closer =>
    intro a s c hs hc
    rcases find?_openScope_cases hs with ⟨-, -, hcloser⟩ | ⟨-, s', hs', hopener, hcloser⟩
    · rw [hcloser] at hc
      cases hc
    · rw [hopener]
      exact hl.opener_lt_closer hs' (hcloser ▸ hc)
  case closer_lt_of_ancestor =>
    intro a b s t c hs ht hab hc
    rcases find?_openScope_cases hs with ⟨-, -, hcloser⟩ | ⟨ha, s', hs', -, hcloser⟩
    · rw [hcloser] at hc
      cases hc
    · rcases find?_openScope_cases ht with ⟨hb, -, -⟩ | ⟨hb, t', ht', -, hcloser'⟩
      · -- what is around the new scope is open
        have hstacked : (f.openScope m).Stacked (f.size :: f.openStack) := hwf.stacked
        rw [hb] at hab
        have hopen : a ∈ f.openStack := hstacked.ancestor_iff.1 hab
        rw [hcloser, (hf.closer_eq_none_iff hs').2 hopen] at hc
        cases hc
      · rw [hcloser']
        exact hl.closer_lt_of_ancestor hs' ht'
          ((ancestor_openScope hf.parentsOlder m hb).1 hab) (hcloser ▸ hc)
  case closer_lt_opener =>
    intro a b s t hs ht hab hnot
    rcases find?_openScope_cases hs with ⟨ha, -, -⟩ | ⟨ha, s', hs', -, hcloser⟩
    · have hb := lt_size_of_find? ht
      rw [size_openScope] at hb
      omega
    · rcases find?_openScope_cases ht with ⟨hb, hopener', -⟩ | ⟨hb, t', ht', hopener', -⟩
      · -- what is not around the new scope is closed
        have hstacked : (f.openScope m).Stacked (f.size :: f.openStack) := hwf.stacked
        rw [hb, hstacked.ancestor_iff, ← hf.closer_eq_none_iff hs'] at hnot
        obtain ⟨c, hc⟩ := Option.ne_none_iff_exists'.1 hnot
        rw [hcloser, hopener', hc]
        exact ⟨c, rfl, (hm hs').2 c hc⟩
      · rw [hcloser, hopener']
        exact hl.closer_lt_opener hs' ht' hab fun h =>
          hnot ((ancestor_openScope hf.parentsOlder m hb).2 h)

/-- Closing the innermost open scope after all markers so far. -/
theorem closeInnermost (hl : f.Laminar) (hf : f.WellFormed) (hm : f.Before m.position)
    {outer : List ScopeId} (hstack : f.openStack = top :: outer) :
    (f.closeInnermost m).Laminar := by
  have hancestor := ancestor_congr (parent?_closeInnermost f m)
  have htop : top ∈ f.openStack := by simp [hstack]
  constructor
  case opener_lt =>
    intro a b s t hs ht hab
    rcases find?_closeInnermost_cases hstack hs with ⟨s', hs', hopener, -⟩
    rcases find?_closeInnermost_cases hstack ht with ⟨t', ht', hopener', -⟩
    rw [hopener, hopener']
    exact hl.opener_lt hs' ht' hab
  case opener_lt_closer =>
    intro a s c hs hc
    rcases find?_closeInnermost_cases hstack hs with ⟨s', hs', hopener, ⟨-, hcloser⟩ | ⟨-, hcloser⟩⟩
    · rw [hcloser] at hc
      cases hc
      rw [hopener]
      exact (hm hs').1
    · rw [hopener]
      exact hl.opener_lt_closer hs' (hcloser ▸ hc)
  case closer_lt_of_ancestor =>
    intro a b s t c hs ht hab hc
    rw [hancestor] at hab
    rcases find?_closeInnermost_cases hstack hs with ⟨s', hs', -, hs_closer⟩
    rcases find?_closeInnermost_cases hstack ht with ⟨t', ht', -, ht_closer⟩
    have hlt : a < b := hab.lt hf.parentsOlder
    rcases hs_closer with ⟨rfl, hcloser⟩ | ⟨hne, hcloser⟩
    · -- whatever is inside the scope that closes now is closed already
      rw [hcloser] at hc
      cases hc
      have hstacked : f.Stacked (a :: outer) := hstack ▸ hf.stacked
      have hb : b ∉ f.openStack := by
        intro hb
        rw [hstack, List.mem_cons] at hb
        rcases hb with rfl | hb
        · omega
        · have hba := (hstacked.ancestor_iff.2 hb).lt hf.parentsOlder
          omega
      rw [← hf.closer_eq_none_iff ht'] at hb
      obtain ⟨d, hd⟩ := Option.ne_none_iff_exists'.1 hb
      rcases ht_closer with ⟨rfl, -⟩ | ⟨-, hcloser'⟩
      · omega
      · rw [hcloser', hd]
        exact ⟨d, rfl, (hm ht').2 d hd⟩
    · rw [hcloser] at hc
      rcases hl.closer_lt_of_ancestor hs' ht' hab hc with ⟨d, hd, hdc⟩
      rcases ht_closer with ⟨rfl, -⟩ | ⟨-, hcloser'⟩
      · -- the innermost open scope is inside no closed one
        rw [(hf.closer_eq_none_iff ht').2 htop] at hd
        cases hd
      · rw [hcloser']
        exact ⟨d, hd, hdc⟩
  case closer_lt_opener =>
    intro a b s t hs ht hab hnot
    rw [hancestor] at hnot
    rcases find?_closeInnermost_cases hstack hs with ⟨s', hs', -, hs_closer⟩
    rcases find?_closeInnermost_cases hstack ht with ⟨t', ht', hopener', -⟩
    rcases hl.closer_lt_opener hs' ht' hab hnot with ⟨c, hc, hct⟩
    rcases hs_closer with ⟨rfl, -⟩ | ⟨-, hcloser⟩
    · -- the scope that closes now was open, so it had not closed before
      rw [(hf.closer_eq_none_iff hs').2 htop] at hc
      cases hc
    · rw [hcloser, hopener']
      exact ⟨c, hc, hct⟩

theorem read (hl : f.Laminar) (hf : f.WellFormed) (hm : f.Before m.position) :
    (f.read m).1.Laminar := by
  rcases f.read_cases m with ⟨-, hread⟩ | ⟨-, hread⟩ | ⟨-, hread, top, outer, s, hstack, -⟩
  · rw [hread]
    exact hl.openScope hf hm
  · rw [hread]
    exact hl
  · rw [hread]
    exact hl.closeInnermost hf hm hstack

/-- Reading markers in the order of their places, after all markers so far. -/
theorem apply {markers : List Marker} (hl : f.Laminar) (hf : f.WellFormed)
    (hbefore : ∀ m ∈ markers, f.Before m.position)
    (hsorted : markers.Pairwise fun m m' => m.position < m'.position) :
    (f.apply markers).Laminar :=
  apply_induction_in_order (fun _ _ hf hm hl => hl.read hf hm) hl hf hbefore hsorted

/-! ## Nesting and ranges -/

/-- A range lies strictly inside another just if the scope of the other is around its scope. -/
theorem strictlyContains_iff (hl : f.Laminar) (hf : f.ParentsOlder) (hs : f.find? a = some s)
    (ht : f.find? b = some t) : s.report.StrictlyContains t.report ↔ f.Ancestor a b := by
  constructor
  · rintro ⟨hstart, hstop⟩
    have hab : a < b := by
      by_contra hba
      rcases Nat.lt_or_eq_of_le (Nat.not_lt.1 hba) with hlt | rfl
      · exact Position.lt_irrefl _ (Position.lt_trans hstart (hl.opener_lt ht hs hlt))
      · rw [Option.some.inj (hs.symm.trans ht)] at hstart
        exact Position.lt_irrefl _ hstart
    by_contra hnot
    -- then the first range ends before the second begins, so it cannot reach past its end
    rcases hl.closer_lt_opener hs ht hab hnot with ⟨c, hc, hct⟩
    have hclosed : s.report.stop = some c.position := by simp [Scope.report, Option.mem_def.1 hc]
    rw [hclosed] at hstop
    cases hd : t.closer with
    | none => simp [Scope.report, hd, Report.StopsBefore] at hstop
    | some d =>
      have hdc : d.position < c.position := by
        simpa [Scope.report, hd, Report.StopsBefore] using hstop
      have htd := hl.opener_lt_closer ht (Option.mem_def.2 hd)
      exact Position.lt_irrefl _ (Position.lt_trans hct (Position.lt_trans htd hdc))
  · intro hab
    refine ⟨hl.opener_lt hs ht (hab.lt hf), ?_⟩
    cases hc : s.closer with
    | none =>
      have hopen : s.report.stop = none := by simp [Scope.report, hc]
      rw [hopen]
      cases t.report.stop <;> trivial
    | some c =>
      rcases hl.closer_lt_of_ancestor hs ht hab (Option.mem_def.2 hc) with ⟨d, hd, hdc⟩
      have hstop : s.report.stop = some c.position := by simp [Scope.report, hc]
      have hstop' : t.report.stop = some d.position := by simp [Scope.report, Option.mem_def.1 hd]
      rw [hstop, hstop']
      exact hdc

/-- Of two scopes none of which is around the other, one ends before the other begins. -/
theorem disjoint (hl : f.Laminar) (hs : f.find? a = some s) (ht : f.find? b = some t) (hne : a ≠ b)
    (hab : ¬ f.Ancestor a b) (hba : ¬ f.Ancestor b a) :
    (∃ stop ∈ s.report.stop, stop < t.report.start) ∨
      ∃ stop ∈ t.report.stop, stop < s.report.start := by
  rcases Nat.lt_or_gt_of_ne hne with hlt | hlt
  · rcases hl.closer_lt_opener hs ht hlt hab with ⟨c, hc, hct⟩
    exact .inl ⟨c.position, by simp [Scope.report, Option.mem_def.1 hc], hct⟩
  · rcases hl.closer_lt_opener ht hs hlt hba with ⟨c, hc, hcs⟩
    exact .inr ⟨c.position, by simp [Scope.report, Option.mem_def.1 hc], hcs⟩

end Laminar

/-! ## Lines in order -/

/-- The forest comes from the empty one by lines read in the order of their numbers, all below
`next`, with any marking in between. -/
inductive ReadInOrder : Nat → Forest → Prop where
  | nothing : ReadInOrder 0 Forest.empty
  | line {next : Nat} {f : Forest} (hf : ReadInOrder next f) (text : Bytes) (number : Nat)
      (hnumber : next ≤ number) : ReadInOrder (number + 1) (f.apply (Marker.onLine text number))
  | marking {next : Nat} {f : Forest} (hf : ReadInOrder next f) (count : Nat) (id : ScopeId) :
      ReadInOrder next (f.mark count id).1

/-- The markers of the next line stand after all markers so far. -/
theorem Before.of_mem_onLine (hbefore : f.Before ⟨next, 0⟩) {text : Bytes} {number : Nat}
    (hnumber : next ≤ number) (hm : m ∈ Marker.onLine text number) : f.Before m.position := by
  intro id s hs
  have hline := Marker.line_of_mem_onLine hm
  rcases hbefore hs with ⟨hopener, hcloser⟩
  have hle : ∀ q : Position, q < ⟨next, 0⟩ → q < m.position := by
    intro q hq
    simp only [Position.lt_def] at hq ⊢
    omega
  exact ⟨hle _ hopener, fun c hc => hle _ (hcloser c hc)⟩

/-- One more line keeps the links and the places in step, and all markers before the next line. -/
theorem laminar_apply_onLine (hf : f.WellFormed) (hl : f.Laminar) (hbefore : f.Before ⟨next, 0⟩)
    (text : Bytes) {number : Nat} (hnumber : next ≤ number) :
    (f.apply (Marker.onLine text number)).Laminar ∧
      (f.apply (Marker.onLine text number)).Before ⟨number + 1, 0⟩ := by
  constructor
  · exact hl.apply hf (fun m hm => hbefore.of_mem_onLine hnumber hm)
      (Marker.pairwise_onLine text number)
  · have hnext : f.Before ⟨number + 1, 0⟩ := hbefore.mono (.inl (Nat.lt_succ_of_le hnumber))
    refine hnext.apply fun m hm => ?_
    rw [Position.lt_def, Marker.line_of_mem_onLine hm]
    exact .inl (Nat.lt_succ_self number)

theorem ReadInOrder.laminar (h : ReadInOrder next f) :
    f.WellFormed ∧ f.Laminar ∧ f.Before ⟨next, 0⟩ := by
  induction h with
  | nothing => exact ⟨wellFormed_empty, laminar_empty, before_empty _⟩
  | line _ text number hnumber ih =>
    -- every marker so far is on an earlier line
    rcases ih with ⟨hf, hl, hbefore⟩
    exact ⟨hf.apply _, laminar_apply_onLine hf hl hbefore text hnumber⟩
  | @marking next f _ count id ih =>
    rcases ih with ⟨hf, hl, hbefore⟩
    have hsame := unmarked_mark f count id
    exact ⟨hf.mark count id, hl.of_unmarked_eq hsame, hbefore.of_unmarked_eq hsame⟩

/-- Whatever stray closers, mismatches and overlapping delimiters the lines hold: one range lies
strictly inside another just if the other scope is around it, the ranges of other scopes are
disjoint, and every closed scope ends after it begins. -/
theorem ranges_mirror_nesting (h : ReadInOrder next f) (hs : f.find? a = some s)
    (ht : f.find? b = some t) :
    (s.report.StrictlyContains t.report ↔ f.Ancestor a b) ∧
      (a ≠ b → ¬ f.Ancestor a b → ¬ f.Ancestor b a →
        (∃ stop ∈ s.report.stop, stop < t.report.start) ∨
          ∃ stop ∈ t.report.stop, stop < s.report.start) ∧
      ∀ stop ∈ s.report.stop, s.report.start < stop := by
  rcases h.laminar with ⟨hf, hl, -⟩
  refine ⟨hl.strictlyContains_iff hf.parentsOlder hs ht, hl.disjoint hs ht, ?_⟩
  intro stop hstop
  obtain ⟨c, hc, rfl⟩ := Option.map_eq_some_iff.1 hstop
  exact hl.opener_lt_closer hs hc

/-- The comment marks of `(/*/` overlap, and the closers of the line `]*/)` two lines later are a
stray, another stray and the partner of the parenthesis. -/
theorem ranges_mirror_nesting_overlapping :
    let f := ((Forest.empty.apply (Marker.onLine [0x28, 0x2F, 0x2A, 0x2F] 0)).mark 2 1).1.apply
      (Marker.onLine [0x5D, 0x2A, 0x2F, 0x29] 2)
    ∃ s t, f.find? 0 = some s ∧ f.find? 1 = some t ∧
      (s.report.StrictlyContains t.report ↔ f.Ancestor 0 1) ∧ s.report = ⟨⟨0, 0⟩, some ⟨2, 3⟩⟩ ∧
      t.report = ⟨⟨0, 1⟩, some ⟨0, 2⟩⟩ := by
  have h := ((ReadInOrder.nothing.line [0x28, 0x2F, 0x2A, 0x2F] 0 (by decide)).marking 2 1).line
    [0x5D, 0x2A, 0x2F, 0x29] 2 (by decide)
  exact ⟨_, _, rfl, rfl, (ranges_mirror_nesting h rfl rfl).1, rfl, rfl⟩

end Forest

end ScopeSearch
