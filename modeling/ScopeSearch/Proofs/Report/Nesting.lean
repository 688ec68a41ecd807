import Mathlib.Data.List.Nodup
import Mathlib.Data.List.Pairwise
import ScopeSearch.Report

/-!
# ScopeSearch.Proofs.Report.Nesting — ranges that are nested or disjoint

Ranges that come from the scopes of one forest never overlap in part: of any two, one lies strictly
inside the other, or one ends before the other begins (`Apart`). If each of them ends after it
begins, no place is an end of two of them:

* `nodup_starts`, `nodup_stops` — no two begin at one place, and no two end at one place;
* `stop_ne_start` — none ends where one begins.

`violation?_eq_none_iff` says which lists of ranges are without fault: those whose ranges each end
after they begin, and none of which lies in another.
-/

namespace ScopeSearch.Report

variable {a b : Report} {reports : List Report}

/-- The range `outer` is the range `inner`, or contains it strictly. -/
def Covers (outer inner : Report) : Prop :=
  outer = inner ∨ outer.StrictlyContains inner

/-- The range `earlier` has an end, and that comes before the start of `later`. -/
def EndsBefore (earlier later : Report) : Prop :=
  ∃ stop ∈ earlier.stop, stop < later.start

/-- The two ranges are nested or disjoint. -/
def Apart (a b : Report) : Prop :=
  a.Nested b ∨ a.EndsBefore b ∨ b.EndsBefore a

/-- If the range has an end, the end comes after the start. -/
def EndsAfterStart (r : Report) : Prop :=
  ∀ stop ∈ r.stop, r.start < stop

/-! ## Two ranges -/

/-- No place is a start or an end of both ranges. -/
structure SharesNoPlace (a b : Report) : Prop where
  starts : a.start ≠ b.start
  stops : ∀ stop ∈ a.stop, stop ∉ b.stop
  start_not_stop : a.start ∉ b.stop
  stop_not_start : b.start ∉ a.stop

theorem SharesNoPlace.symm (h : a.SharesNoPlace b) : b.SharesNoPlace a where
  starts := h.starts.symm
  stops := fun stop hb ha => h.stops stop ha hb
  start_not_stop := h.stop_not_start
  stop_not_start := h.start_not_stop

/-- Of two nested ranges, the start of the outer one comes first, and the end of the inner one. -/
theorem StrictlyContains.sharesNoPlace (h : a.StrictlyContains b) (hb : b.EndsAfterStart) :
    a.SharesNoPlace b := by
  rcases h with ⟨hstart, hstop⟩
  have hends : ∀ stop ∈ a.stop, ∃ inner ∈ b.stop, inner < stop := by
    intro stop hmem
    rw [Option.mem_def.1 hmem] at hstop
    cases hinner : b.stop with
    | none =>
      -- a range without an end lies in no range that has one
      rw [hinner] at hstop
      exact hstop.elim
    | some inner =>
      rw [hinner] at hstop
      exact ⟨inner, rfl, hstop⟩
  constructor
  case starts =>
    intro heq
    rw [heq] at hstart
    exact Position.lt_irrefl _ hstart
  case stops =>
    intro stop ha hb'
    rcases hends stop ha with ⟨inner, hinner, hlt⟩
    rw [Option.mem_unique hinner hb'] at hlt
    exact Position.lt_irrefl _ hlt
  case start_not_stop =>
    intro hmem
    exact Position.lt_irrefl _ (Position.lt_trans hstart (hb _ hmem))
  case stop_not_start =>
    intro hmem
    rcases hends _ hmem with ⟨inner, hinner, hlt⟩
    exact Position.lt_irrefl _ (Position.lt_trans (hb inner hinner) hlt)

/-- Of two disjoint ranges, all of the earlier one comes first. -/
theorem EndsBefore.sharesNoPlace (h : a.EndsBefore b) (ha : a.EndsAfterStart)
    (hb : b.EndsAfterStart) : a.SharesNoPlace b := by
  rcases h with ⟨last, hlast, hlt⟩
  have hstart : a.start < b.start := Position.lt_trans (ha last hlast) hlt
  constructor
  case starts =>
    intro heq
    rw [heq] at hstart
    exact Position.lt_irrefl _ hstart
  case stops =>
    intro stop hstop hmem
    rw [Option.mem_unique hstop hlast] at hmem
    exact Position.lt_irrefl _ (Position.lt_trans hlt (hb _ hmem))
  case start_not_stop =>
    intro hmem
    exact Position.lt_irrefl _ (Position.lt_trans hstart (hb _ hmem))
  case stop_not_start =>
    intro hmem
    rw [Option.mem_unique hmem hlast] at hlt
    exact Position.lt_irrefl _ hlt

theorem Apart.sharesNoPlace (h : a.Apart b) (ha : a.EndsAfterStart) (hb : b.EndsAfterStart) :
    a.SharesNoPlace b := by
  rcases h with (hab | hba) | hab | hba
  · exact hab.sharesNoPlace hb
  · exact (hba.sharesNoPlace ha).symm
  · exact hab.sharesNoPlace ha hb
  · exact (hba.sharesNoPlace hb ha).symm

/-- Of two disjoint ranges, none lies in the other. -/
theorem EndsBefore.not_nested (h : a.EndsBefore b) (ha : a.EndsAfterStart)
    (hb : b.EndsAfterStart) : ¬ a.Nested b := by
  rcases h with ⟨last, hlast, hlt⟩
  rintro (⟨-, hstop⟩ | ⟨hstart, -⟩)
  · -- the later range would end before it begins
    rw [Option.mem_def.1 hlast] at hstop
    cases hinner : b.stop with
    | none =>
      rw [hinner] at hstop
      exact hstop
    | some inner =>
      rw [hinner] at hstop
      have hinner_lt : inner < last := hstop
      have hafter := hb inner hinner
      exact Position.lt_irrefl _ (Position.lt_trans hlt (Position.lt_trans hafter hinner_lt))
  · have hafter := ha last hlast
    exact Position.lt_irrefl _ (Position.lt_trans hstart (Position.lt_trans hafter hlt))

theorem not_endsTooEarly_iff {r : Report} : ¬ r.EndsTooEarly ↔ r.EndsAfterStart := by
  unfold EndsTooEarly EndsAfterStart
  constructor
  · intro hnot stop hstop
    refine Position.not_le.1 fun hle => ?_
    exact hnot ⟨stop, hstop, hle⟩
  · rintro hends ⟨stop, hstop, hle⟩
    exact Position.not_le.2 (hends stop hstop) hle

/-! ## Lists of ranges -/

/-- There is no violation in a list just if each range ends after it begins and no two are
nested. -/
theorem violation?_eq_none_iff : violation? reports = none ↔
    (∀ r ∈ reports, r.EndsAfterStart) ∧ reports.Pairwise fun a b => ¬ a.Nested b := by
  induction reports with
  | nil => simp [violation?]
  | cons r rest ih =>
    rw [List.forall_mem_cons, List.pairwise_cons, ← not_endsTooEarly_iff]
    unfold violation?
    by_cases hearly : r.EndsTooEarly
    · simp [hearly]
    · cases hfound : rest.find? fun other => r.Nested other with
      | some other =>
        have hnested : r.Nested other := by simpa using List.find?_some hfound
        have hmem := List.mem_of_find?_eq_some hfound
        simp only [hearly, if_false, reduceCtorEq, false_iff]
        rintro ⟨-, hnone, -⟩
        exact hnone other hmem hnested
      | none =>
        have hnone : ∀ other ∈ rest, ¬ r.Nested other := by simpa using hfound
        simp only [hearly, if_false, not_false_eq_true, true_and]
        rw [ih]
        constructor
        · rintro ⟨hends, hpairs⟩
          exact ⟨hends, hnone, hpairs⟩
        · rintro ⟨hends, -, hpairs⟩
          exact ⟨hends, hpairs⟩

section Lists

variable (hends : ∀ r ∈ reports, r.EndsAfterStart) (hapart : reports.Pairwise Apart)
include hends hapart

theorem pairwise_sharesNoPlace : reports.Pairwise SharesNoPlace :=
  hapart.imp_of_mem fun ha hb hab => hab.sharesNoPlace (hends _ ha) (hends _ hb)

/-- No two ranges begin at one place. -/
theorem nodup_starts : (reports.map start).Nodup :=
  List.pairwise_map.2 ((pairwise_sharesNoPlace hends hapart).imp SharesNoPlace.starts)

/-- No two ranges end at one place. -/
theorem nodup_stops : (reports.filterMap stop).Nodup := by
  refine List.pairwise_filterMap.2 ((pairwise_sharesNoPlace hends hapart).imp fun hab => ?_)
  rintro place hplace _ hother rfl
  exact hab.stops place hplace hother

/-- No range ends where one of them begins. -/
theorem stop_ne_start {r r' : Report} (hr : r ∈ reports) (hr' : r' ∈ reports) :
    r'.stop ≠ some r.start := by
  by_cases hsame : r = r'
  · -- a range does not end where it begins itself
    intro hstop
    rw [← hsame] at hstop
    exact Position.lt_irrefl _ (hends r hr _ hstop)
  · have hsymm : Std.Symm SharesNoPlace := ⟨fun _ _ => SharesNoPlace.symm⟩
    have hpair : r.SharesNoPlace r' :=
      (pairwise_sharesNoPlace hends hapart).forall hr hr' hsame
    exact hpair.start_not_stop

end Lists

end ScopeSearch.Report
