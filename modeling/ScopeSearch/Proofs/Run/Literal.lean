import ScopeSearch.Proofs.Forest.Drawn
import ScopeSearch.Proofs.Marker.Occurrence
import ScopeSearch.Proofs.Run.Faults
import ScopeSearch.Proofs.Search.Coverage

/-!
# ScopeSearch.Proofs.Run.Literal — what a run writes is in the text

The reports of a run come out at different checkpoints and when the text ends. Together they are
ranges of one forest, so no two of them overlap in part, and no delimiter is an end of two of them.

* `Source.prefix_splitLines_text` — the lines that are read are the first ones of the text;
* `Search.standsAt_of_mem_reportsFrom` — at the ends of a report stand an opener and its partner;
* `Search.pairwise_reportsFrom` — of any two reports one lies strictly inside the other, or one ends
  before the other begins;
* `run_writes_literal_ranges` — so it is with all that a run writes, whatever fails.
-/

namespace ScopeSearch

variable {matcher : Matcher} {options : Options} {lines : List Bytes} {r : Report}

/-! ## Lines of a text -/

/-- A text has the lines of what it begins with, and then others. -/
theorem prefix_splitLines_append (before after : Bytes) :
    (splitLines before).1 <+: (splitLines (before ++ after)).1 := by
  induction before with
  | nil => simp
  | cons b rest ih =>
    rw [List.cons_append]
    by_cases hb : b = lineBreak
    · rw [hb, splitLines_lineBreak, splitLines_lineBreak]
      exact (List.prefix_cons_inj [lineBreak]).2 ih
    · rw [splitLines_cons hb, splitLines_cons hb]
      rcases hrest : splitLines rest with ⟨lines, fragment⟩
      rcases hall : splitLines (rest ++ after) with ⟨all, fragment'⟩
      rw [hrest, hall] at ih
      cases lines with
      | nil => exact List.nil_prefix
      | cons line lines =>
        -- the line that begins here is the same in both
        rcases ih with ⟨more, rfl⟩
        exact ⟨more, rfl⟩

/-- The lines that are read are the first ones of the text. -/
theorem Source.prefix_splitLines_text (source : Source) :
    (splitLines source.delivered).1 <+: (splitLines source.text).1 := by
  have hgiven : source.delivered <+: source.text := by
    unfold delivered
    cases IoFault.lasting source.fault with
    | none => exact List.prefix_refl source.text
    | some limit => exact List.take_prefix limit.1 source.text
  rcases hgiven with ⟨rest, hrest⟩
  rw [← hrest]
  exact prefix_splitLines_append source.delivered rest

/-! ## Reports of a search -/

/-- The markers of lines stand on these. -/
theorem Offline.standsAt_of_mem_markersFrom {m : Marker} (hm : m ∈ markersFrom 0 lines) :
    m.delimiter.StandsAt lines m.position := by
  rcases List.mem_flatMap.1 hm with ⟨⟨text, number⟩, hline, hm⟩
  refine ⟨text, ?_, Marker.bytes_prefix_of_mem_onLine hm⟩
  rw [Marker.line_of_mem_onLine hm]
  exact List.mem_zipIdx_iff_getElem?.1 hline

theorem Offline.drawnFrom_forest (lines : List Bytes) :
    Forest.DrawnFrom (markersFrom 0 lines) (forest lines) :=
  (Forest.drawnFrom_empty _).apply (List.Subset.refl _)

namespace Search

variable {readFault : Option IoFault}

/-- If reading fails before the end of the input, then the end has no reports. -/
theorem reportsFrom_sublist (matcher : Matcher) (options : Options) (lines : List Bytes)
    (readFault : Option IoFault) :
    let (steps, final) := start.feedLines matcher options lines
    (start.reportsFrom matcher options lines readFault).Sublist
      (steps.flatMap Step.reports ++ final.finish.reports) := by
  refine List.Sublist.append (List.Sublist.refl _) ?_
  split
  · exact List.Sublist.refl _
  · exact List.nil_sublist _

/-- A report is the range of a scope of the forest of all lines. -/
theorem exists_scope_of_mem_reportsFrom
    (hr : r ∈ start.reportsFrom matcher options lines readFault) :
    ∃ id s, (Offline.forest lines).find? id = some s ∧ s.report = r := by
  have hmem := (reportsFrom_sublist matcher options lines readFault).subset hr
  rcases (mem_reports_iff_reported matcher options lines).1 hmem with ⟨id, s, -, hs, hreport⟩
  exact ⟨id, s, hs, hreport⟩

theorem endsAfterStart_of_mem_reportsFrom
    (hr : r ∈ start.reportsFrom matcher options lines readFault) : r.EndsAfterStart := by
  rcases exists_scope_of_mem_reportsFrom hr with ⟨id, s, hs, rfl⟩
  exact (Offline.readInOrder_forest lines).laminar.2.1.endsAfterStart hs

/-- At the start of a report stands an opener, and at its end, if it has one, the partner. -/
theorem standsAt_of_mem_reportsFrom
    (hr : r ∈ start.reportsFrom matcher options lines readFault) :
    ∃ d : Delimiter, d.isOpener = true ∧ d.StandsAt lines r.start ∧
      ∀ stop ∈ r.stop, d.partner.StandsAt lines stop := by
  rcases exists_scope_of_mem_reportsFrom hr with ⟨id, s, hs, rfl⟩
  -- the two ends of the scope are markers of the lines
  have hdrawn := Offline.drawnFrom_forest lines
  rcases hdrawn.opener hs with ⟨hmem, hopener⟩
  refine ⟨s.opener.delimiter, hopener, Offline.standsAt_of_mem_markersFrom hmem, ?_⟩
  intro stop hstop
  obtain ⟨c, hc, rfl⟩ := Option.map_eq_some_iff.1 hstop
  rcases hdrawn.closer hs c hc with ⟨hmem', hpartner⟩
  rw [← hpartner]
  exact Offline.standsAt_of_mem_markersFrom hmem'

/-- No two reports overlap in part, whichever checkpoints or ends of the input released them. -/
theorem pairwise_reportsFrom (matcher : Matcher) (options : Options) (lines : List Bytes)
    (readFault : Option IoFault) :
    (start.reportsFrom matcher options lines readFault).Pairwise Report.Apart := by
  -- together they are the reports of the forest that has kept everything
  let kept := Forest.empty.scan matcher options.scopes 0 lines
  have hkept : Forest.ReadInOrder (0 + lines.length) kept :=
    Forest.ReadInOrder.nothing.scan matcher options.scopes lines
  have hends : kept.endReports.Pairwise Report.Apart :=
    hkept.laminar.2.1.pairwise_endReports hkept.wellFormed
  have hall : _ = kept.endReports := reports_eq_scan matcher options lines
  rw [← hall] at hends
  exact hends.sublist (reportsFrom_sublist matcher options lines readFault)

end Search

/-! ## Whole runs -/

/-- How much of some bytes a sink takes: all of them, or as many as there is room for. -/
def Sink.accepted (sink : Sink) (bytes : Bytes) : Bytes :=
  match IoFault.lasting sink.limit with
  | some (room, _) => bytes.take room
  | none => bytes

/-- What has been written when a run has come to its end is what the sink takes. -/
theorem Progress.written_settle (sink : Sink) (readFault : Option IoFault) (p : Progress) :
    (p.settle sink readFault).2.1 = sink.accepted p.written := by
  unfold settle Sink.overrun? Sink.accepted
  cases IoFault.lasting sink.limit with
  | none =>
    cases readFault with
    | some fault => rfl
    | none => cases sink.flushFault <;> rfl
  | some limit =>
    by_cases hroom : limit.1 < p.written.length
    · simp [Option.filter, hroom]
    · -- there is room for everything
      have htake : p.written.take limit.1 = p.written := List.take_of_length_le (Nat.not_lt.1 hroom)
      simp only [Option.filter, hroom, decide_false, Bool.false_eq_true, if_false, htake]
      cases readFault with
      | some fault => rfl
      | none => cases sink.flushFault <;> rfl

/-- What a run writes, whatever the text is and whatever fails: as much of its reports as the sink
takes. At the start of each report an opener stands in the text, and at the end, if it has one, the
partner of that opener, further on. No place is an end of two reports, nor the start of one and the
end of another, and of any two reports one lies strictly inside the other, or one ends before the
other begins. -/
theorem run_writes_literal_ranges (matcher : Matcher) (options : Options) (source : Source)
    (sink : Sink) :
    let lines := (splitLines source.text).1
    let reports := Search.start.reportsFrom matcher options (splitLines source.delivered).1
      ((IoFault.lasting source.fault).map Prod.snd)
    (run matcher options source sink).written = sink.accepted (renderReports reports) ∧
      (∀ r ∈ reports, ∃ d : Delimiter, d.isOpener = true ∧ d.StandsAt lines r.start ∧
        ∀ stop ∈ r.stop, r.start < stop ∧ d.partner.StandsAt lines stop) ∧
      (reports.map Report.start).Nodup ∧ (reports.filterMap Report.stop).Nodup ∧
      (∀ r ∈ reports, ∀ r' ∈ reports, r'.stop ≠ some r.start) ∧
      reports.Pairwise Report.Apart := by
  intro lines reports
  have hends : ∀ r ∈ reports, r.EndsAfterStart :=
    fun r hr => Search.endsAfterStart_of_mem_reportsFrom hr
  have hapart : reports.Pairwise Report.Apart := Search.pairwise_reportsFrom _ _ _ _
  refine ⟨?_, ?_, Report.nodup_starts hends hapart, Report.nodup_stops hends hapart,
    fun r hr r' hr' => Report.stop_ne_start hends hapart hr hr', hapart⟩
  · have hwritten := congrArg (fun seen => seen.2.1) (seen_run matcher options source sink)
    simp only [Progress.written_settle] at hwritten
    exact hwritten
  · -- the lines that were read are lines of the text
    intro r hr
    have hlines := source.prefix_splitLines_text
    rcases Search.standsAt_of_mem_reportsFrom hr with ⟨d, hopener, hstart, hstop⟩
    refine ⟨d, hopener, hstart.mono hlines, fun stop hmem => ?_⟩
    exact ⟨hends r hr stop hmem, (hstop stop hmem).mono hlines⟩

end ScopeSearch
