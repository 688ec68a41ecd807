import ScopeSearch.Proofs.Forest.Growth
import ScopeSearch.Proofs.Forest.Reported

/-!
# ScopeSearch.Proofs.Forest.Widening — the same scopes with more marks

Two searches that differ only in how many scopes they mark for a match hold forests that differ only
in their marks. All marks of the narrow one are marks of the wide one, and what the wide one marks
besides is around them (`Widens`). So

* `Widens.apply`, `Widens.mark` — reading markers and marking the same scope keep it;
* `Widens.exists_reported_inside` — no report of the wide forest comes from nothing;
* `Widens.endReports` — the reports of the two forests cover each other.
-/

namespace ScopeSearch

variable {narrow wide : Nat}

/-- What a wider search reports: a report around each one of the narrow search, and nothing that is
not around one of them, unless the narrow search marks nothing at all. -/
structure Report.Widened (narrow : Nat) (inner outer : List Report) : Prop where
  covered : ∀ r ∈ inner, ∃ w ∈ outer, w.Covers r
  covers : 0 < narrow → ∀ w ∈ outer, ∃ r ∈ inner, w.Covers r
  together : 0 < narrow → (inner = [] ↔ outer = [])

/-- Lists of reports that cover each other are both empty or neither. -/
theorem Report.widened_of_covers {inner outer : List Report}
    (hcovered : ∀ r ∈ inner, ∃ w ∈ outer, w.Covers r)
    (hcovers : 0 < narrow → ∀ w ∈ outer, ∃ r ∈ inner, w.Covers r) :
    Report.Widened narrow inner outer := by
  refine ⟨hcovered, hcovers, fun hpos => ?_⟩
  constructor
  · rintro rfl
    rw [List.eq_nil_iff_forall_not_mem]
    intro w hw
    rcases hcovers hpos w hw with ⟨r, hr, -⟩
    exact List.not_mem_nil hr
  · rintro rfl
    rw [List.eq_nil_iff_forall_not_mem]
    intro r hr
    rcases hcovered r hr with ⟨w, hw, -⟩
    exact List.not_mem_nil hw

theorem Report.widened_nil (narrow : Nat) : Report.Widened narrow [] [] :=
  Report.widened_of_covers (fun _ hr => absurd hr List.not_mem_nil)
    fun _ _ hw => absurd hw List.not_mem_nil

namespace Forest

variable {f g : Forest} {d id top : Nat} {markers : List Marker}

/-- The forest `g` is `f` with more marks. If at least one scope is marked for each match in `f`,
then each mark of `g` stands at a mark of `f` or around one. -/
structure Widens (narrow : Nat) (f g : Forest) : Prop where
  same : g.unmarked = f.unmarked
  more : ∀ ⦃id : Nat⦄, f.isMatched id = true → g.isMatched id = true
  around : 0 < narrow → ∀ ⦃id : Nat⦄, g.isMatched id = true →
    ∃ d, f.isMatched d = true ∧ (id = d ∨ f.Ancestor id d)

theorem widens_refl (narrow : Nat) (f : Forest) : Widens narrow f f where
  same := rfl
  more := fun _ hid => hid
  around := fun _ id hid => ⟨id, hid, .inl rfl⟩

namespace Widens

/-! ## Reading and marking -/

/-- Reading markers keeps all marks and all links between the scopes that bear them. -/
theorem apply (h : Widens narrow f g) (hf : f.WellFormed) (markers : List Marker) :
    Widens narrow (f.apply markers) (g.apply markers) := by
  constructor
  case same =>
    rw [unmarked_apply, unmarked_apply, h.same]
  case more =>
    intro id hid
    rw [isMatched_apply] at hid ⊢
    exact h.more hid
  case around =>
    intro hpos id hid
    rw [isMatched_apply] at hid
    rcases h.around hpos hid with ⟨d, hd, hup⟩
    refine ⟨d, by rw [isMatched_apply]; exact hd, ?_⟩
    exact hup.imp_right (grownBy_apply hf markers).ancestor

/-- Marking for one match marks the same way up in both forests, further in the wide one. -/
theorem mark (h : Widens narrow f g) (hle : narrow ≤ wide) (id : Nat) :
    Widens narrow (f.mark narrow id).1 (g.mark wide id).1 := by
  have hway : g.wayUp wide id = f.wayUp wide id := by
    rw [← wayUp_unmarked g, h.same, wayUp_unmarked]
  have hancestor : (f.mark narrow id).1.Ancestor = f.Ancestor :=
    ancestor_congr (parent?_eq_of_unmarked_eq (unmarked_mark f narrow id))
  have hnarrow : ∀ {a : Nat}, f.isMatched a = true ∨ a ∈ f.wayUp narrow id →
      (f.mark narrow id).1.isMatched a = true := by
    intro a ha
    rw [isMatched_mark]
    simpa using ha
  constructor
  case same =>
    rw [unmarked_mark, unmarked_mark, h.same]
  case more =>
    intro a ha
    rw [isMatched_mark, Bool.or_eq_true, decide_eq_true_iff] at ha ⊢
    rw [hway]
    refine ha.imp (fun hmatched => h.more hmatched) fun hmem => ?_
    -- the narrow way up is the beginning of the wide one
    have htake := take_wayUp f wide narrow id
    rw [Nat.min_eq_left hle] at htake
    rw [← htake] at hmem
    exact List.mem_of_mem_take hmem
  case around =>
    intro hpos a ha
    rw [isMatched_mark, Bool.or_eq_true, decide_eq_true_iff, hway] at ha
    rw [hancestor]
    rcases ha with hmatched | hmem
    · rcases h.around hpos hmatched with ⟨d, hd, hup⟩
      exact ⟨d, hnarrow (.inl hd), hup⟩
    · -- both ways up start at the scope for the match
      have hup := eq_or_ancestor_of_mem_wayUp hmem
      have hid : id < f.size := by
        rcases hup with rfl | hancestor
        · exact lt_size_of_mem_wayUp hmem
        · exact hancestor.lt_size
      exact ⟨id, hnarrow (.inr (self_mem_wayUp hpos hid)), hup⟩

theorem innermostContaining?_eq (h : Widens narrow f g) (line : Nat) (span : Span) :
    g.innermostContaining? line span = f.innermostContaining? line span := by
  rw [← innermostContaining?_unmarked g, h.same, innermostContaining?_unmarked]

/-! ## Reports -/

/-- At each mark or around it, the narrow forest reports a scope that lies inside what the wide
forest reports around the mark. -/
theorem exists_reported_between (h : Widens narrow f g) (hf : f.ParentsOlder)
    (htop : g.Reported top) (hd : f.isMatched d = true) (hup : top = d ∨ f.Ancestor top d) :
    ∃ id, f.Reported id ∧ (top = id ∨ f.Ancestor top id) := by
  -- up along marked scopes, which ends at the latest where the wide forest reports
  induction d using Nat.strongRecOn with
  | ind d ih =>
    rcases f.stopsAt_or_parent? d with hstop | ⟨p, hp, hmatched⟩
    · exact ⟨d, ⟨hd, .inr hstop⟩, hup⟩
    · rcases hup with rfl | hancestor
      · -- its parent is marked in both forests, so it is reported because it is open
        have hopen : top ∈ f.openStack := by
          rw [← openStack_eq_of_unmarked_eq h.same]
          refine htop.2.resolve_right fun hstop => ?_
          rw [← parent?_eq_of_unmarked_eq h.same] at hp
          have hnot := hstop p hp
          rw [h.more hmatched] at hnot
          cases hnot
        exact ⟨top, ⟨hd, .inl hopen⟩, .inl rfl⟩
      · rcases ancestor_iff.1 hancestor with ⟨p', hp', hup⟩
        rw [hp] at hp'
        cases hp'
        exact ih p (hf hp) hmatched hup

/-- What the wide forest reports is around something that the narrow one reports. -/
theorem exists_reported_inside (h : Widens narrow f g) (hf : f.ParentsOlder) (hpos : 0 < narrow)
    (htop : g.Reported top) : ∃ id, f.Reported id ∧ (top = id ∨ f.Ancestor top id) := by
  rcases h.around hpos htop.1 with ⟨d, hd, hup⟩
  exact h.exists_reported_between hf htop hd hup

/-- The reports of the two forests cover each other, as long as nothing has been flushed. -/
theorem endReports (h : Widens narrow f g) (hf : f.WellFormed) (hl : f.Laminar)
    (hu : f.Unflushed) : Report.Widened narrow f.endReports g.endReports := by
  have hg : g.WellFormed := hf.of_unmarked_eq h.same
  have hancestor : g.Ancestor = f.Ancestor := ancestor_congr (parent?_eq_of_unmarked_eq h.same)
  have hinner : ∀ r, r ∈ f.endReports ↔
      ∃ id s, f.Reported id ∧ f.find? id = some s ∧ s.report = r :=
    fun r => mem_endReports_iff hf hu rfl
  have houter : ∀ r, r ∈ g.endReports ↔
      ∃ id s, g.Reported id ∧ f.find? id = some s ∧ s.report = r :=
    fun r => mem_endReports_iff hg (hu.of_unmarked_eq h.same) h.same
  apply Report.widened_of_covers
  · intro r hr
    rcases (hinner r).1 hr with ⟨id, s, hid, hs, rfl⟩
    rcases exists_reported_around hg.parentsOlder (h.more hid.1) with ⟨top, htop, hup⟩
    rw [hancestor] at hup
    obtain ⟨t, ht⟩ := exists_find?_of_isMatched h.same htop.1
    exact ⟨t.report, (houter _).2 ⟨top, t, htop, ht, rfl⟩,
      (hl.covers_iff hf.parentsOlder ht hs).2 hup⟩
  · intro hpos w hw
    rcases (houter w).1 hw with ⟨top, t, htop, ht, rfl⟩
    rcases h.exists_reported_inside hf.parentsOlder hpos htop with ⟨id, hid, hup⟩
    obtain ⟨s, hs⟩ := exists_find?_of_isMatched rfl hid.1
    exact ⟨s.report, (hinner _).2 ⟨id, s, hid, hs, rfl⟩,
      (hl.covers_iff hf.parentsOlder ht hs).2 hup⟩

end Widens

end Forest

end ScopeSearch
