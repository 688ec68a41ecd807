import ScopeSearch.Proofs.Forest.Consolidation
import ScopeSearch.Proofs.Forest.Tightest
import ScopeSearch.Proofs.Report.Nesting

/-!
# ScopeSearch.Proofs.Forest.Reported — which scopes are reported

If the input ends, a forest comes to `endReports`: those of the waiting scopes and those of the open
ones. As long as nothing has been flushed, these are the ranges of the scopes that are marked and
have no marked parent, or are open (`Reported`):

* `mem_endReports_iff` — a report is the range of such a scope;
* `exists_reported_around` — every marked scope is reported itself or lies inside a scope that is;
* `Laminar.covers_iff` — and so its range is covered by a report;
* `Laminar.pairwise_endReports` — no two reports overlap in part.
-/

namespace ScopeSearch.Forest

variable {f g : Forest} {a b id : Nat} {ids : List ScopeId} {s t : Scope} {r : Report}

/-! ## Reports and scopes -/

/-- What is reported if the input ends: the waiting scopes, and then the open ones. -/
def endReports (f : Forest) : List Report :=
  f.reports f.consolidate ++ f.openReports

/-- Without open scopes, what is reported at the end is what is waiting. -/
theorem endReports_of_openStack_eq_nil (h : f.openStack = []) :
    f.endReports = f.reports f.consolidate := by
  have hnone : f.openReports = [] := by simp [openReports, openIds, h, reports]
  rw [endReports, hnone, List.append_nil]

/-- The scope is reported if the input ends and nothing has been flushed: it is marked, and it is
open or its parent is not marked. -/
def Reported (f : Forest) (id : ScopeId) : Prop :=
  f.isMatched id = true ∧ (id ∈ f.openStack ∨ f.StopsAt id)

theorem mem_reports_iff :
    r ∈ f.reports ids ↔ ∃ id ∈ ids, ∃ s, f.find? id = some s ∧ s.report = r := by
  unfold reports
  rw [List.mem_map]
  constructor
  · rintro ⟨s, hs, hr⟩
    obtain ⟨id, hid, hfind⟩ := List.mem_filterMap.1 hs
    exact ⟨id, hid, s, hfind, hr⟩
  · rintro ⟨id, hid, s, hfind, hr⟩
    exact ⟨s, List.mem_filterMap.2 ⟨id, hid, hfind⟩, hr⟩

/-- A scope that has not closed is reported without an end. -/
theorem isUnterminated_of_mem_openReports (hf : f.WellFormed) (hr : r ∈ f.openReports) :
    r.isUnterminated = true := by
  rcases mem_reports_iff.1 hr with ⟨id, hid, s, hs, rfl⟩
  have hopen : id ∈ f.openStack := List.mem_reverse.1 (List.mem_filter.1 hid).1
  have hcloser := (hf.closer_eq_none_iff hs).2 hopen
  simp [Report.isUnterminated, Scope.report, hcloser]

/-- A scope that waits is reported with an end. -/
theorem isUnterminated_of_mem_consolidate (hf : f.WellFormed)
    (hr : r ∈ f.reports f.consolidate) : r.isUnterminated = false := by
  rcases mem_reports_iff.1 hr with ⟨id, hid, s, hs, rfl⟩
  rcases hf.closed_partner ((mem_consolidate_iff hf).1 hid).1 with ⟨s', closer, hs', hcloser, -⟩
  rw [hs] at hs'
  cases hs'
  simp [Report.isUnterminated, Scope.report, hcloser]

/-- Of the reports at the end, those without an end are those of the open scopes. -/
theorem filter_isUnterminated_endReports (hf : f.WellFormed) :
    f.endReports.filter Report.isUnterminated = f.openReports := by
  have hclosed : (f.reports f.consolidate).filter Report.isUnterminated = [] := by
    refine List.filter_eq_nil_iff.2 fun r hr => ?_
    rw [isUnterminated_of_mem_consolidate hf hr]
    exact Bool.false_ne_true
  have hopen : f.openReports.filter Report.isUnterminated = f.openReports :=
    List.filter_eq_self.2 fun r hr => isUnterminated_of_mem_openReports hf hr
  rw [endReports, List.filter_append, hclosed, hopen, List.nil_append]

/-- The scopes that are reported, in the order of their reports. -/
def endIds (f : Forest) : List ScopeId :=
  f.consolidate ++ f.openIds.filter f.isMatched

theorem endReports_eq (f : Forest) : f.endReports = f.reports f.endIds := by
  simp [endReports, endIds, openReports, reports]

theorem mem_endIds_iff (hf : f.WellFormed) (hu : f.Unflushed) (hid : id < f.size) :
    id ∈ f.endIds ↔ f.Reported id := by
  unfold endIds Reported openIds
  rw [List.mem_append, mem_consolidate_iff hf, List.mem_filter, List.mem_reverse]
  constructor
  · rintro (⟨-, hmatched, hstop⟩ | ⟨hopen, hmatched⟩)
    · exact ⟨hmatched, .inr hstop⟩
    · exact ⟨hmatched, .inl hopen⟩
  · rintro ⟨hmatched, hopen | hstop⟩
    · exact .inr ⟨hopen, hmatched⟩
    · -- what has not been flushed waits or is open
      rcases List.mem_append.1 (hu hid) with hwaits | hopen
      · exact .inl ⟨hwaits, hmatched, hstop⟩
      · exact .inr ⟨hopen, hmatched⟩

/-- The reports are the ranges of the scopes that are reported, which can be looked up in any forest
that differs in its marks alone. -/
theorem mem_endReports_iff (hg : g.WellFormed) (hu : g.Unflushed)
    (hsame : g.unmarked = f.unmarked) :
    r ∈ g.endReports ↔ ∃ id s, g.Reported id ∧ f.find? id = some s ∧ s.report = r := by
  have hreported : ∀ {id s}, f.find? id = some s → (id ∈ g.endIds ↔ g.Reported id) := by
    intro id s hs
    have hid := lt_size_of_find? hs
    rw [← size_eq_of_unmarked_eq hsame] at hid
    exact mem_endIds_iff hg hu hid
  rw [endReports_eq, reports_eq_of_unmarked_eq hsame, mem_reports_iff]
  constructor
  · rintro ⟨id, hid, s, hs, hr⟩
    exact ⟨id, s, (hreported hs).1 hid, hs, hr⟩
  · rintro ⟨id, s, hid, hs, hr⟩
    exact ⟨id, (hreported hs).2 hid, s, hs, hr⟩

/-- Every marked scope is reported itself or lies inside a scope that is. -/
theorem exists_reported_around (hf : f.ParentsOlder) (hmatched : f.isMatched id = true) :
    ∃ top, f.Reported top ∧ (top = id ∨ f.Ancestor top id) := by
  -- the way up along marked scopes ends at one that has no marked parent
  rcases outermostMatched_spec hf id with ⟨hstop, hkeep, hup⟩
  exact ⟨f.outermostMatched id, ⟨hkeep hmatched, .inr hstop⟩, hup⟩

/-! ## Reports and ranges -/

/-- One range covers another just if the one scope is the other or is around it. -/
theorem Laminar.covers_iff (hl : f.Laminar) (hf : f.ParentsOlder) (hs : f.find? a = some s)
    (ht : f.find? b = some t) : s.report.Covers t.report ↔ a = b ∨ f.Ancestor a b := by
  unfold Report.Covers
  rw [hl.strictlyContains_iff hf hs ht]
  refine or_congr_left ⟨fun hreport => ?_, ?_⟩
  · -- scopes that open at one place are one scope
    have hopener : s.opener.position = t.opener.position := congrArg Report.start hreport
    by_contra hne
    rcases Nat.lt_or_gt_of_ne hne with hlt | hlt
    · exact Position.lt_irrefl _ (hopener ▸ hl.opener_lt hs ht hlt)
    · exact Position.lt_irrefl _ (hopener ▸ hl.opener_lt ht hs hlt)
  · rintro rfl
    rw [Option.some.inj (hs.symm.trans ht)]

theorem Laminar.endsAfterStart (hl : f.Laminar) (hs : f.find? id = some s) :
    s.report.EndsAfterStart := by
  intro stop hstop
  obtain ⟨c, hc, rfl⟩ := Option.map_eq_some_iff.1 hstop
  exact hl.opener_lt_closer hs hc

/-- The ranges of two scopes are nested or disjoint. -/
theorem Laminar.apart (hl : f.Laminar) (hf : f.ParentsOlder) (hs : f.find? a = some s)
    (ht : f.find? b = some t) (hne : a ≠ b) : s.report.Apart t.report := by
  by_cases hab : f.Ancestor a b
  · exact .inl (.inl ((hl.strictlyContains_iff hf hs ht).2 hab))
  · by_cases hba : f.Ancestor b a
    · exact .inl (.inr ((hl.strictlyContains_iff hf ht hs).2 hba))
    · exact .inr (hl.disjoint hs ht hne hab hba)

/-- No scope is reported twice. -/
theorem nodup_endIds (hf : f.WellFormed) : f.endIds.Nodup := by
  have hopen : f.openIds.Nodup := by
    refine List.nodup_reverse.2 ((hf.stacked.pairwise hf.parentsOlder).imp fun hlt heq => ?_)
    rw [heq] at hlt
    exact Nat.lt_irrefl _ hlt
  refine List.nodup_append.2 ⟨nodup_consolidate f, hopen.filter _, ?_⟩
  -- what waits has closed, so it is not one of the open ones
  rintro id hwaits other hother rfl
  have hstack : id ∈ f.openStack := List.mem_reverse.1 (List.mem_filter.1 hother).1
  exact hf.not_mem_openStack ((mem_consolidate_iff hf).1 hwaits).1 hstack

/-- No two reports overlap in part. -/
theorem Laminar.pairwise_endReports (hl : f.Laminar) (hf : f.WellFormed) :
    f.endReports.Pairwise Report.Apart := by
  rw [endReports_eq]
  unfold reports
  rw [List.pairwise_map, List.pairwise_filterMap]
  refine (nodup_endIds hf).imp fun hne => ?_
  intro s hs t ht
  exact hl.apart hf.parentsOlder hs ht hne

end ScopeSearch.Forest
