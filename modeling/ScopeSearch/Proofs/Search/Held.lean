import ScopeSearch.Proofs.Forest.Bracketing
import ScopeSearch.Proofs.Search.BalancedRun
import ScopeSearch.Proofs.Search.Unfailing

/-!
# ScopeSearch.Proofs.Search.Held — what a search holds is the current run

The current run are the lines after the last one that left no scope open. A search holds their text
and their scopes, whatever the matcher answers:

* `Search.buffer_feedLines` — the buffer holds the lines of the run with their numbers;
* `openers_feedLines` — there is one scope for each opener on these lines;
* `Forest.countP_isOpen`, `Forest.countP_isClosed` — each is open, or is closed and waits;
* `search_holds_current_run` — reading lines never fails, and holds just the current run.
-/

namespace ScopeSearch

variable {f : Forest}

/-! ## Lines held -/

/-- Lines with their numbers, the first of which is given. -/
def numbered (first : Nat) (run : List Bytes) : List Line :=
  (run.zipIdx first).map fun (text, number) => ⟨number, text⟩

theorem numbered_concat (first : Nat) (run : List Bytes) (text : Bytes) :
    numbered first (run ++ [text]) = numbered first run ++ [⟨first + run.length, text⟩] := by
  unfold numbered
  rw [List.zipIdx_append, List.map_append]
  rfl

/-- Marking opens and closes nothing. -/
theorem Forest.openStack_scanLine (matcher : Matcher) (scopes number : Nat) (f : Forest)
    (text : Bytes) :
    (f.scanLine matcher scopes number text).openStack =
      (f.apply (Marker.onLine text number)).openStack :=
  openStack_eq_of_unmarked_eq (unmarked_scanLine matcher scopes number f text)

/-- A line that leaves a scope open joins the buffer; any other one clears it. -/
theorem Search.buffer_feedLine (matcher : Matcher) (options : Options) (s : Search)
    (text : Bytes) :
    let step := s.feedLine matcher options text
    step.search.buffer =
      if step.search.depth = 0 then #[] else s.buffer.push ⟨s.linesRead, text⟩ := by
  intro step
  let marked := s.forest.scanLine matcher options.scopes s.linesRead text
  by_cases hdepth : step.search.depth = 0
  · have hdropped : step.search = _ := feedLine_of_depth_eq_zero text hdepth
    rw [if_pos hdepth, hdropped]
    rfl
  · have hopen : marked.depth ≠ 0 := by
      have hforest : step.search.forest = marked := (feedLine_of_depth_ne_zero text hdepth).2
      rw [← hforest]
      exact hdepth
    have hread : (s.forest.apply (Marker.onLine text s.linesRead)).depth ≠ 0 := by
      unfold Forest.depth at hopen ⊢
      rw [← Forest.openStack_scanLine matcher options.scopes]
      exact hopen
    have hheld : step = _ := (feedLine_eq matcher options s text).trans (if_neg hopen)
    rw [if_neg hdepth, hheld]
    exact if_neg hread

/-- The buffer holds the lines since the last checkpoint, with their numbers. -/
theorem Search.buffer_feedLines (matcher : Matcher) (options : Options) (lines : List Bytes) :
    (start.feedLines matcher options lines).2.buffer.toList =
      numbered (Offline.runStart lines) (lines.drop (Offline.runStart lines)) := by
  induction lines using List.reverseRecOn with
  | nil => rfl
  | append_singleton before text ih =>
    have hdepth := depth_feedLines matcher options (before ++ [text])
    have hread := linesRead_feedLines_start matcher options before
    rw [feedLines_concat] at hdepth ⊢
    rw [buffer_feedLine, hdepth]
    by_cases hopen : (Offline.forest (before ++ [text])).depth = 0
    · rw [if_pos hopen, Offline.runStart_concat_of_closed hopen, List.drop_length]
      rfl
    · rw [if_neg hopen, Offline.runStart_concat_of_open hopen, Array.toList_push, ih, hread,
        List.drop_append_of_le_length (Offline.runStart_le before), numbered_concat,
        Offline.length_run]

/-! ## Scopes held -/

theorem Forest.openers_unmarked (f : Forest) : f.unmarked.openers = f.openers := by
  refine List.ext_getElem? fun id => ?_
  rw [getElem?_openers, getElem?_openers, find?_unmarked, Option.map_map]
  rfl

/-- There is one scope for each opener on the lines since the last checkpoint. -/
theorem openers_feedLines (matcher : Matcher) (options : Options) (lines : List Bytes) :
    let first := Offline.runStart lines
    (Search.start.feedLines matcher options lines).2.forest.openers =
      Marker.openersOf (Offline.markersFrom first (lines.drop first)) := by
  intro first
  rw [forest_feedLines, ← Forest.openers_unmarked, Offline.unmarked_scan, Offline.finishedFrom,
    Forest.unmarked_empty, Forest.openers_apply_empty]

/-- As many elements of a list have a property as there are places that hold one. -/
theorem length_filter_range {α : Type} (p : α → Bool) (l : List α) :
    ((List.range l.length).filter fun i => l[i]?.any p).length = l.countP p := by
  induction l using List.reverseRecOn with
  | nil => rfl
  | append_singleton l a ih =>
    have hold : ((List.range l.length).filter fun i => (l ++ [a])[i]?.any p) =
        (List.range l.length).filter fun i => l[i]?.any p := by
      refine List.filter_congr fun i hi => ?_
      rw [List.getElem?_append_left (List.mem_range.1 hi)]
    rw [List.length_append, List.length_singleton, List.range_succ, List.filter_append, hold,
      List.length_append, ih, List.countP_append]
    congr 1
    cases hp : p a with
    | true => simp [hp]
    | false => simp [hp]

/-- A list of ids, each once, counts the scopes that it names. -/
theorem Forest.countP_scopes {p : Scope → Bool} {ids : List ScopeId} (hnodup : ids.Nodup)
    (hids : ∀ id : Nat, id ∈ ids ↔ (f.find? id).any p = true) :
    f.scopes.toList.countP p = ids.length := by
  rw [← length_filter_range]
  refine List.Perm.length_eq ((List.perm_ext_iff_of_nodup (List.nodup_range.filter _) hnodup).2 ?_)
  intro id
  rw [hids, List.mem_filter, List.mem_range, Array.length_toList, Array.getElem?_toList]
  exact and_iff_right_of_imp Forest.lt_size_of_any

theorem Forest.WellFormed.mem_openStack_iff (hf : f.WellFormed) (id : Nat) :
    id ∈ f.openStack ↔ (f.find? id).any Scope.isOpen = true := by
  rw [Option.any_eq_true]
  constructor
  · intro hid
    obtain ⟨t, ht⟩ := Forest.exists_find? (hf.lt_size_of_mem_openStack hid)
    exact ⟨t, ht, Option.isNone_iff_eq_none.2 ((hf.closer_eq_none_iff ht).2 hid)⟩
  · rintro ⟨t, ht, hopen⟩
    exact (hf.closer_eq_none_iff ht).1 (Option.isNone_iff_eq_none.1 hopen)

/-- While nothing has been flushed, every closed scope waits. -/
theorem Forest.Unflushed.mem_closed_iff (hu : f.Unflushed) (hf : f.WellFormed) (id : Nat) :
    id ∈ f.closed.toList ↔ f.isClosed id = true := by
  constructor
  · exact hf.isClosed_of_mem_closed
  · intro hclosed
    have hid : id < f.size := Forest.lt_size_of_any hclosed
    rcases List.mem_append.1 (hu hid) with hwaits | hopen
    · exact hwaits
    · exact absurd hopen ((hf.isClosed_iff hid).1 hclosed)

theorem Forest.WellFormed.countP_isOpen (hf : f.WellFormed) :
    f.scopes.toList.countP Scope.isOpen = f.depth := by
  have hnodup : f.openStack.Nodup :=
    (hf.stacked.pairwise hf.parentsOlder).imp fun hlt => Nat.ne_of_gt hlt
  exact Forest.countP_scopes hnodup hf.mem_openStack_iff

theorem Forest.Unflushed.countP_isClosed (hu : f.Unflushed) (hf : f.WellFormed) :
    (f.scopes.toList.countP fun t => !t.isOpen) = f.closed.size :=
  Forest.countP_scopes hf.closed_nodup (hu.mem_closed_iff hf)

/-! ## The current run -/

/-- The search holds the lines of a run, which begins with line `first`, and their scopes: one for
each opener, of which some are open, and the others are closed and all wait to be flushed. -/
structure Search.Holds (s : Search) (first : Nat) (run : List Bytes) : Prop where
  buffer_eq : s.buffer.toList = numbered first run
  openers_eq : s.forest.openers = Marker.openersOf (Offline.markersFrom first run)
  count_open : s.forest.scopes.toList.countP Scope.isOpen = s.depth
  count_closed : (s.forest.scopes.toList.countP fun t => !t.isOpen) = s.pendingClosed
  waiting_iff : ∀ id, id ∈ s.forest.closed.toList ↔ s.forest.isClosed id = true

theorem Search.holds_feedLines (matcher : Matcher) (options : Options) (lines : List Bytes) :
    (start.feedLines matcher options lines).2.Holds (Offline.runStart lines)
      (lines.drop (Offline.runStart lines)) := by
  have hused := usedInOrder_feedLines matcher options lines
  have hf := hused.wellFormed
  have hu := hused.unflushed rfl
  exact {
    buffer_eq := buffer_feedLines matcher options lines
    openers_eq := openers_feedLines matcher options lines
    count_open := hf.countP_isOpen
    count_closed := hu.countP_isClosed hf
    waiting_iff := hu.mem_closed_iff hf }

/-- Reading lines never fails, whatever spans the matcher answers, and nor does ending the input.
With no scope open after the lines read so far, the search holds nothing. Otherwise it holds just
the lines after the last one that left no scope open, and their scopes. A line that leaves a scope
open releases no report. -/
theorem search_holds_current_run (matcher : Matcher) (options : Options) (lines : List Bytes) :
    let after (n : Nat) := (Search.start.feedLines matcher options (lines.take n)).2
    let run := Search.start.feedLines matcher options lines
    let final := run.2
    Search.Strict.feedLines matcher options Search.start lines = .ok run ∧
    Search.Strict.finish final = .ok final.finish ∧
    final.linesRead = lines.length ∧
    (final.depth = 0 → final.buffer = #[] ∧ final.forest = Forest.empty) ∧
    (final.depth ≠ 0 → ∃ first < lines.length, (after first).depth = 0 ∧
      (∀ n, first < n → n ≤ lines.length → (after n).depth ≠ 0) ∧
      final.Holds first (lines.drop first)) ∧
    ∀ text, (final.feedLine matcher options text).search.depth ≠ 0 →
      (final.feedLine matcher options text).reports = [] := by
  intro after run final
  have hf : final.forest.WellFormed :=
    (Search.usedInOrder_feedLines matcher options lines).wellFormed
  refine ⟨Search.Strict.feedLines_eq Forest.wellFormed_empty matcher options lines,
    Search.Strict.finish_eq hf, Search.linesRead_feedLines_start matcher options lines, ?_, ?_, ?_⟩
  · intro hdepth
    have hfinal : final = _ := Search.feedLines_of_depth_eq_zero lines hdepth
    show final.buffer = #[] ∧ final.forest = Forest.empty
    rw [hfinal]
    exact ⟨rfl, rfl⟩
  · intro hdepth
    have hafter : ∀ n, (after n).depth = (Offline.forest (lines.take n)).depth := fun n =>
      Search.depth_feedLines matcher options (lines.take n)
    have hopen : (Offline.forest lines).depth ≠ 0 := by
      rw [← Search.depth_feedLines matcher options]
      exact hdepth
    have hstart := Offline.depth_take_runStart lines
    have hlt : Offline.runStart lines < lines.length := by
      refine Nat.lt_of_le_of_ne (Offline.runStart_le lines) fun heq => hopen ?_
      rw [heq, List.take_length] at hstart
      exact hstart
    refine ⟨Offline.runStart lines, hlt, ?_, ?_, Search.holds_feedLines matcher options lines⟩
    · rw [hafter]
      exact hstart
    · intro n hn hle
      rw [hafter]
      exact Offline.depth_take_ne_zero hn hle
  · intro text hopen
    exact (Search.feedLine_of_depth_ne_zero text hopen).1

/-- The line `a` leaves nothing open. Of the lines `(x` and `)[`, the second one comes back to depth
zero between its two delimiters, but does not end there: both are held, with a parenthesis that has
closed and a bracket that is open. The matcher answers a span that stops before it starts. -/
theorem search_holds_current_run_mid_line :
    let lines : List Bytes := [[0x61], [0x28, 0x78], [0x29, 0x5B]]
    let matcher := Matcher.scripted [none, some ⟨9, 2⟩]
    let final := (Search.start.feedLines matcher {} lines).2
    final.depth ≠ 0 ∧ final.pendingClosed = 1 ∧
      final.Holds 1 [[0x28, 0x78], [0x29, 0x5B]] := by
  intro lines matcher final
  have hdepth : final.depth ≠ 0 := by decide
  rcases search_holds_current_run matcher {} lines with ⟨-, -, -, -, hrun, -⟩
  rcases hrun hdepth with ⟨first, hlt, hstart, hopen, hholds⟩
  have hone : ¬ first < 1 := by
    intro hfirst
    exact hopen 1 hfirst (by decide) (by decide)
  have htwo : first ≠ 2 := by
    rintro rfl
    exact absurd hstart (by decide)
  have hfirst : first = 1 := by
    have hlength : lines.length = 3 := by decide
    omega
  rw [hfirst] at hholds
  exact ⟨hdepth, by decide, hholds⟩

end ScopeSearch
