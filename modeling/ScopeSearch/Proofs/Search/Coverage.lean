import ScopeSearch.Proofs.Forest.Reported
import ScopeSearch.Proofs.Search.Offline

/-!
# ScopeSearch.Proofs.Search.Coverage — every match is reported, and nothing else

A mark may be taken up by a marked scope around it, which may close much later or never; reports
come at different checkpoints, or when the input ends. None of this loses a match or makes one up:

* `mem_reports_iff_reported` — the reports of a whole search are the ranges of the scopes that the
  forest that has kept everything reports;
* `isMarkedFrom_iff` — what is marked is on a way up from the tightest scope around a match;
* `every_match_is_reported` — so every match that has a scope around it lies in a report, and every
  report lies around a match.
-/

namespace ScopeSearch

variable {matcher : Matcher} {options : Options} {f : Forest} {id next number : Nat}
  {lines : List Bytes} {r : Report}

/-! ## What is marked -/

/-- Lines of the given numbers keep a forest that is read in order. -/
theorem Forest.ReadInOrder.applyLines (hf : Forest.ReadInOrder number f) (lines : List Bytes) :
    Forest.ReadInOrder (number + lines.length) (f.apply (Offline.markersFrom number lines)) := by
  induction lines generalizing number f with
  | nil => exact hf
  | cons text rest ih =>
    have hrest := ih (hf.line text number (Nat.le_refl number))
    rw [Offline.markersFrom_cons, Forest.apply_append, List.length_cons, Nat.add_comm rest.length,
      ← Nat.add_assoc]
    exact hrest

theorem Offline.readInOrder_forest (lines : List Bytes) :
    Forest.ReadInOrder lines.length (Offline.forest lines) := by
  have hlines := Forest.ReadInOrder.nothing.applyLines lines
  rw [Nat.zero_add] at hlines
  exact hlines

/-- A scope is marked if it is at most `scopes - 1` levels above the deepest scope around the match
on some line. -/
theorem Offline.isMarkedFrom_iff {scopes : Nat} :
    Offline.isMarkedFrom matcher scopes f 0 lines id = true ↔
      ∃ k text span t, lines[k]? = some text ∧ matcher k text = some span ∧
        f.deepest? k span = some t ∧ ∃ level < scopes, (f.lineage t)[level]? = some id := by
  unfold Offline.isMarkedFrom Offline.target?
  rw [List.any_eq_true]
  constructor
  · rintro ⟨⟨text, k⟩, hline, hany⟩
    obtain ⟨t, ht, hlevel⟩ := (Option.any_eq_true _ _).1 hany
    obtain ⟨span, hspan, hdeepest⟩ := Option.bind_eq_some_iff.1 ht
    obtain ⟨level, hlevel⟩ := List.mem_iff_getElem?.1 (List.contains_iff_mem.1 hlevel)
    rw [List.getElem?_take] at hlevel
    split at hlevel
    · rename_i hlt
      exact ⟨k, text, span, t, List.mem_zipIdx_iff_getElem?.1 hline, hspan, hdeepest, level, hlt,
        hlevel⟩
    · cases hlevel
  · rintro ⟨k, text, span, t, hline, hspan, hdeepest, level, hlt, hlevel⟩
    refine ⟨(text, k), List.mem_zipIdx_iff_getElem?.2 hline, (Option.any_eq_true _ _).2 ⟨t, ?_, ?_⟩⟩
    · exact Option.bind_eq_some_iff.2 ⟨span, hspan, hdeepest⟩
    · refine List.contains_iff_mem.2 (List.mem_iff_getElem?.2 ⟨level, ?_⟩)
      rw [List.getElem?_take, if_pos hlt]
      exact hlevel

/-! ## What is reported -/

/-- The forest that has kept everything and the forest of all lines differ in their marks alone. -/
theorem Offline.unmarked_scan_eq (matcher : Matcher) (scopes : Nat) (lines : List Bytes) :
    (Forest.empty.scan matcher scopes 0 lines).unmarked = (Offline.forest lines).unmarked := by
  rw [← Offline.unmarked_scan_empty matcher scopes lines, Forest.unmarked_unmarked]

/-- The reports of a whole search are the ranges of the scopes that the forest that has kept
everything reports. -/
theorem mem_reports_iff_reported (matcher : Matcher) (options : Options) (lines : List Bytes) :
    let (steps, final) := Search.start.feedLines matcher options lines
    let kept := Forest.empty.scan matcher options.scopes 0 lines
    r ∈ steps.flatMap Step.reports ++ final.finish.reports ↔
      ∃ id s, kept.Reported id ∧ (Offline.forest lines).find? id = some s ∧ s.report = r := by
  let kept := Forest.empty.scan matcher options.scopes 0 lines
  have hkept : Forest.ReadInOrder (0 + lines.length) kept :=
    Forest.ReadInOrder.nothing.scan matcher options.scopes lines
  have hall := reports_eq_scan matcher options lines
  have hsame : kept.unmarked = (Offline.forest lines).unmarked :=
    Offline.unmarked_scan_eq matcher options.scopes lines
  show r ∈ _ ++ _ ↔ ∃ id s, kept.Reported id ∧ _
  rw [hall]
  exact Forest.mem_endReports_iff hkept.wellFormed hkept.unflushed hsame

/-- A match that some scope of the input contains lies in a report: there is a report that covers
the tightest range around it. -/
theorem exists_report_around (hforward : matcher.Forward) (hscopes : 0 < options.scopes) {k : Nat}
    {text : Bytes} {span : Span} (hline : lines[k]? = some text)
    (hfound : matcher k text = some span)
    (hcontains : (Offline.forest lines).contains k span id = true) :
    let (steps, final) := Search.start.feedLines matcher options lines
    ∃ t s, (Offline.forest lines).IsTightest k span t s ∧
      ∃ r ∈ steps.flatMap Step.reports ++ final.finish.reports, r.Covers s.report := by
  let kept := Forest.empty.scan matcher options.scopes 0 lines
  have hf := Offline.readInOrder_forest lines
  rcases hf.laminar with ⟨hwf, hl, -⟩
  have hsame : kept.unmarked = (Offline.forest lines).unmarked :=
    Offline.unmarked_scan_eq matcher options.scopes lines
  have hancestor : kept.Ancestor = (Offline.forest lines).Ancestor :=
    Forest.ancestor_congr (Forest.parent?_eq_of_unmarked_eq hsame)
  obtain ⟨t, ht⟩ := hf.exists_deepest (hforward hfound) hcontains
  obtain ⟨s, hs⟩ := hf.isTightest (hforward hfound) ht
  -- the tightest scope is marked, as the first one on its way up
  have hlevel : ((Offline.forest lines).lineage t)[0]? = some t :=
    Forest.getElem?_zero_lineage hwf.parentsOlder (Forest.lt_size_of_find? hs.found)
  have hmatched : kept.isMatched t = true := by
    rw [Offline.isMatched_scan_empty hforward]
    exact Offline.isMarkedFrom_iff.2 ⟨k, text, span, t, hline, hfound, ht, 0, hscopes, hlevel⟩
  have holder : kept.ParentsOlder :=
    (Forest.ReadInOrder.nothing.scan matcher options.scopes lines).wellFormed.parentsOlder
  rcases Forest.exists_reported_around holder hmatched with ⟨top, hreported, haround⟩
  rw [hancestor] at haround
  obtain ⟨u, hu⟩ := Forest.exists_find?_of_isMatched hsame hreported.1
  have hmem := (mem_reports_iff_reported matcher options lines).2 ⟨top, u, hreported, hu, rfl⟩
  exact ⟨t, s, hs, u.report, hmem, (hl.covers_iff hwf.parentsOlder hu hs.found).2 haround⟩

/-- A report is the range of a scope at most `scopes - 1` levels above the tightest one around a
match, and contains that match. -/
theorem exists_match_of_report (hforward : matcher.Forward)
    (hr : let (steps, final) := Search.start.feedLines matcher options lines
      r ∈ steps.flatMap Step.reports ++ final.finish.reports) :
    ∃ k text span t s, lines[k]? = some text ∧ matcher k text = some span ∧
      (Offline.forest lines).IsTightest k span t s ∧
        ∃ level < options.scopes, ∃ id u, ((Offline.forest lines).lineage t)[level]? = some id ∧
          (Offline.forest lines).find? id = some u ∧ u.Contains k span ∧ u.report = r := by
  have hf := Offline.readInOrder_forest lines
  rcases hf.laminar with ⟨hwf, hl, -⟩
  rcases (mem_reports_iff_reported matcher options lines).1 hr with ⟨id, u, hreported, hu, hreport⟩
  have hmarked := hreported.1
  rw [Offline.isMatched_scan_empty hforward] at hmarked
  rcases Offline.isMarkedFrom_iff.1 hmarked with
    ⟨k, text, span, t, hline, hfound, ht, level, hlt, hlevel⟩
  obtain ⟨s, hs⟩ := hf.isTightest (hforward hfound) ht
  refine ⟨k, text, span, t, s, hline, hfound, hs, level, hlt, id, u, hlevel, hu, ?_, hreport⟩
  -- what is above the tightest scope contains the match as well
  rcases Forest.eq_or_ancestor_of_mem_wayUp (List.mem_of_getElem? hlevel) with rfl | habove
  · rw [Option.some.inj (hu.symm.trans hs.found)]
    exact hs.contains
  · exact hl.contains_of_ancestor hwf.parentsOlder hu hs.found habove hs.contains

/-- Every match is reported, and nothing else. If some scope of the input contains a match, then a
report covers the tightest range around it. Every report is the range of a scope that lies at most
`scopes - 1` levels above the tightest one around some match, and contains that match. With no scope
to mark, nothing is reported. -/
theorem every_match_is_reported (matcher : Matcher) (options : Options) (lines : List Bytes)
    (hforward : matcher.Forward) :
    let (steps, final) := Search.start.feedLines matcher options lines
    let reports := steps.flatMap Step.reports ++ final.finish.reports
    let f := Offline.forest lines
    (0 < options.scopes → ∀ k text span, lines[k]? = some text → matcher k text = some span →
      (∃ id, f.contains k span id = true) →
        ∃ t s, f.IsTightest k span t s ∧ ∃ r ∈ reports, r.Covers s.report) ∧
    (∀ r ∈ reports, ∃ k text span t s, lines[k]? = some text ∧ matcher k text = some span ∧
      f.IsTightest k span t s ∧ ∃ level < options.scopes, ∃ id u, (f.lineage t)[level]? = some id ∧
        f.find? id = some u ∧ u.Contains k span ∧ u.report = r) ∧
    (options.scopes = 0 → reports = []) := by
  refine ⟨?_, fun r hr => exists_match_of_report hforward hr, ?_⟩
  · rintro hscopes k text span hline hfound ⟨id, hcontains⟩
    exact exists_report_around hforward hscopes hline hfound hcontains
  · intro hnone
    rw [List.eq_nil_iff_forall_not_mem]
    intro r hr
    rcases exists_match_of_report hforward hr with ⟨_, _, _, _, _, _, _, _, level, hlt, -⟩
    rw [hnone] at hlt
    exact Nat.not_lt_zero level hlt

/-- Of the lines `([x]`, `{x})` and `(x`, the match on the second one lies in the brace, and a
report covers the range of the brace. -/
theorem every_match_is_reported_in_brace :
    let lines : List Bytes := [[0x28, 0x5B, 0x78, 0x5D], [0x7B, 0x78, 0x7D, 0x29], [0x28, 0x78]]
    let (steps, final) := Search.start.feedLines (Matcher.literal [0x78]) { scopes := 1 } lines
    ∃ t s, (Offline.forest lines).IsTightest 1 ⟨1, 2⟩ t s ∧
      ∃ r ∈ steps.flatMap Step.reports ++ final.finish.reports, r.Covers s.report := by
  have hcovered := (every_match_is_reported (Matcher.literal [0x78]) { scopes := 1 }
    [[0x28, 0x5B, 0x78, 0x5D], [0x7B, 0x78, 0x7D, 0x29], [0x28, 0x78]]
    (Matcher.forward_literal [0x78])).1
  exact hcovered (by decide) 1 _ ⟨1, 2⟩ rfl (by decide) ⟨2, by decide⟩

end ScopeSearch
