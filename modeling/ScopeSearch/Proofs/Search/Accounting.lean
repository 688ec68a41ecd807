import Mathlib.Algebra.GroupWithZero.Nat
import ScopeSearch.Proofs.Forest.Ignored
import ScopeSearch.Proofs.Search.Checkpoint
import ScopeSearch.Proofs.Search.Coverage
import ScopeSearch.Proofs.Search.Innermost

/-!
# ScopeSearch.Proofs.Search.Accounting — the log accounts for the search

The log of a search says what the search leaves out and what it releases, and nothing is missing
from it:

* `Step.Accounts`, `Search.accounts_feedLine` — what is logged for one line;
* `strays_feedLines` — the closers logged as ignored are those that end no scope of all the lines;
* `sum_released?` — the reports that the checkpoints count are all reports that lines release;
* `log_accounts_for_run` — so it is for every run, and for the end of the input.
-/

namespace ScopeSearch

open Marker (closersOf openersOf)

variable {matcher : Matcher} {options : Options} {f : Forest} {s : Search} {step : Step}
  {text : Bytes} {lines : List Bytes}

/-! ## Records -/

/-- The closer that a record says is ignored. -/
def Event.stray? : Event → Option Stray
  | .strayCloser stray => some stray
  | _ => none

/-- The number of reports that a record of a checkpoint gives. -/
def Event.released? : Event → Option Nat
  | .checkpoint _ reports => some reports
  | _ => none

/-- No scope of the forest contains the span on the line. -/
def Forest.isOutside (f : Forest) (line : Nat) (span : Span) : Bool :=
  f.scopes.all fun s => ¬ s.Contains line span

/-- What is logged for a line, and what comes of it, where the search stood at `s` before. The
scopes that it held are those of `s` and those that the line itself opens. -/
structure Step.Accounts (step : Step) (matcher : Matcher) (s : Search) (text : Bytes) : Prop where
  /-- First come the closers that are ignored, then the match if it is outside every scope, and then
  the number of reports if any are released. -/
  events_eq :
    let held := s.forest.apply (Marker.onLine text s.linesRead)
    step.events =
      (s.forest.strays (Marker.onLine text s.linesRead)).map .strayCloser ++
        (((matcher s.linesRead text).filter (held.isOutside s.linesRead)).map
          fun span => .matchOutside s.linesRead span.start text).toList ++
        if step.reports = [] then [] else [.checkpoint s.linesRead step.reports.length]
  /-- What is logged as ignored is a closer of the line, and what was innermost when it was read is
  why. -/
  ignored : ∀ stray, .strayCloser stray ∈ step.events → ∃ before after,
    Marker.onLine text s.linesRead = before ++ stray.marker :: after ∧
      stray.marker.delimiter.isOpener = false ∧ (s.forest.apply before).Explains stray
  /-- A match outside every scope sets no mark: the line comes to what its delimiters come to. -/
  outside_keeps_marks :
    let held := s.forest.apply (Marker.onLine text s.linesRead)
    (matcher s.linesRead text).any (held.isOutside s.linesRead) →
      (∀ id, held.isMatched id = s.forest.isMatched id) ∧
      step.reports = (if held.depth = 0 then held.reports held.consolidate else []) ∧
      step.search.forest = if held.depth = 0 then Forest.empty else held

/-! ## One line -/

/-- While nothing has been flushed, no scope contains a span just if none is found. -/
theorem Forest.isOutside_iff (hu : f.Unflushed) (line : Nat) (span : Span) :
    f.isOutside line span = true ↔ f.innermostContaining? line span = none := by
  rw [innermostContaining?_eq_none_iff hu, isOutside, Array.all_eq_true]
  constructor
  · intro hnone id
    by_contra hcontains
    rw [Bool.not_eq_false, contains_iff] at hcontains
    rcases hcontains with ⟨t, ht, hspan⟩
    obtain ⟨hid, rfl⟩ := Array.getElem?_eq_some_iff.1 ht
    exact of_decide_eq_true (hnone id hid) hspan
  · intro hnone id hid
    refine decide_eq_true fun hspan => ?_
    have hcontains := (contains_iff line span id).2
      ⟨f.scopes[id], Array.getElem?_eq_some_iff.2 ⟨hid, rfl⟩, hspan⟩
    rw [hnone id] at hcontains
    cases hcontains

/-- A match is logged just if no scope contains it, and then nothing is marked. -/
theorem markMatch_of_unflushed (hu : f.Unflushed) (scopes number : Nat) (text : Bytes)
    (found : Option Span) :
    (Search.markMatch scopes number text f found).2 =
        ((found.filter (f.isOutside number)).map
          fun span => .matchOutside number span.start text).toList ∧
      (found.any (f.isOutside number) → (Search.markMatch scopes number text f found).1 = f) := by
  cases found with
  | none => exact ⟨rfl, fun _ => rfl⟩
  | some span =>
    cases hid : f.innermostContaining? number span with
    | none =>
      have houtside := (f.isOutside_iff hu number span).2 hid
      simp [Search.markMatch, hid, Option.filter_some, houtside]
    | some id =>
      have hinside : f.isOutside number span = false := by
        rw [← Bool.not_eq_true, f.isOutside_iff hu, hid]
        exact Option.some_ne_none id
      simp [Search.markMatch, hid, Option.filter_some, hinside]

namespace Search

/-- The records of a line: the ignored closers, the match outside every scope, the checkpoint. -/
theorem events_feedLine (hs : Forest.UsedInOrder s.linesRead true s.forest) (matcher : Matcher)
    (options : Options) (text : Bytes) :
    (s.feedLine matcher options text).events =
      (s.forest.strays (Marker.onLine text s.linesRead)).map .strayCloser ++
        (((matcher s.linesRead text).filter
          ((s.forest.apply (Marker.onLine text s.linesRead)).isOutside s.linesRead)).map
            fun span => .matchOutside s.linesRead span.start text).toList ++
        if (s.feedLine matcher options text).reports = [] then []
        else [.checkpoint s.linesRead (s.feedLine matcher options text).reports.length] := by
  have hu := (hs.line text s.linesRead (Nat.le_refl _)).unflushed rfl
  have hstep := feedLine_eq matcher options s text
  rw [← (markMatch_of_unflushed hu options.scopes s.linesRead text (matcher s.linesRead text)).1]
  by_cases hopen : (s.forest.scanLine matcher options.scopes s.linesRead text).depth = 0
  · have hcheckpoint : s.feedLine matcher options text = _ := hstep.trans (if_pos hopen)
    rw [hcheckpoint]
    simp [checkpoint, List.isEmpty_iff]
  · have hheld : s.feedLine matcher options text = _ := hstep.trans (if_neg hopen)
    rw [hheld]
    exact (List.append_nil _).symm

theorem accounts_feedLine (hs : Forest.UsedInOrder s.linesRead true s.forest)
    (matcher : Matcher) (options : Options) (text : Bytes) :
    (s.feedLine matcher options text).Accounts matcher s text := by
  have hevents := events_feedLine hs matcher options text
  constructor
  case events_eq => exact hevents
  case ignored =>
    intro stray hstray
    have hmem : stray ∈ s.forest.strays (Marker.onLine text s.linesRead) := by
      rw [hevents, List.mem_append, List.mem_append] at hstray
      rcases hstray with (hstray | hmatch) | hcheckpoint
      · simpa using hstray
      · simp at hmatch
      · split at hcheckpoint <;> simp at hcheckpoint
    exact Forest.exists_before_of_mem_strays hs.wellFormed hmem
  case outside_keeps_marks =>
    intro held houtside
    have hu : held.Unflushed := (hs.line text s.linesRead (Nat.le_refl _)).unflushed rfl
    have hmarked : s.forest.scanLine matcher options.scopes s.linesRead text = held :=
      (markMatch_of_unflushed hu options.scopes s.linesRead text _).2 houtside
    have hcases := (feedLine_cases matcher options s text).2
    simp only [hmarked] at hcases
    refine ⟨Forest.isMatched_apply s.forest _, ?_⟩
    rcases hcases with ⟨hopen, hreports, hforest⟩ | ⟨hclosed, hreports, -, hforest⟩
    · have hdepth : held.depth ≠ 0 := fun h => hopen (List.length_eq_zero_iff.1 h)
      rw [if_neg hdepth, if_neg hdepth]
      exact ⟨hreports, hforest⟩
    · have hdepth : held.depth = 0 := congrArg List.length hclosed
      rw [if_pos hdepth, if_pos hdepth]
      exact ⟨hreports, hforest⟩

end Search

/-! ## A run of lines -/

namespace Search

/-- After line `n` a search has done what it does when it is given the lines so far alone. -/
theorem take_feedLines (matcher : Matcher) (options : Options) (s : Search) (lines : List Bytes)
    (n : Nat) :
    (s.feedLines matcher options lines).1.take n =
      (s.feedLines matcher options (lines.take n)).1 := by
  induction lines generalizing s n with
  | nil =>
    rw [List.take_nil]
    exact List.take_nil
  | cons text rest ih =>
    cases n with
    | zero => rfl
    | succ n => exact congrArg (_ :: ·) (ih _ n)

/-- A line is read where the search stands after the lines before it. -/
theorem getElem?_feedLines (matcher : Matcher) (options : Options) (s : Search)
    (lines : List Bytes) (n : Nat) :
    (s.feedLines matcher options lines).1[n]? = lines[n]?.map
      ((s.feedLines matcher options (lines.take n)).2.feedLine matcher options) := by
  induction lines generalizing s n with
  | nil => rfl
  | cons text rest ih =>
    cases n with
    | zero => rfl
    | succ n => exact ih _ n

/-- Every line of a run is accounted for. -/
theorem accounts_feedLines (matcher : Matcher) (options : Options) {n : Nat}
    (htext : lines[n]? = some text) :
    ∃ step, (start.feedLines matcher options lines).1[n]? = some step ∧
      step.Accounts matcher (start.feedLines matcher options (lines.take n)).2 text := by
  refine ⟨_, ?_, accounts_feedLine (usedInOrder_feedLines matcher options _) matcher options text⟩
  rw [getElem?_feedLines, htext, Option.map_some]

theorem accounts_of_mem_feedLines (matcher : Matcher) (options : Options)
    (hstep : step ∈ (start.feedLines matcher options lines).1) :
    ∃ s text, step.Accounts matcher s text := by
  obtain ⟨n, hn⟩ := List.mem_iff_getElem?.1 hstep
  have hline := getElem?_feedLines matcher options start lines n
  rw [hn, eq_comm] at hline
  obtain ⟨text, htext, -⟩ := Option.map_eq_some_iff.1 hline
  rcases accounts_feedLines matcher options htext with ⟨step', hstep', haccounts⟩
  rw [hn] at hstep'
  cases hstep'
  exact ⟨_, text, haccounts⟩

/-- The search ignores the closers that the forest of all lines ignores. -/
theorem strays_feedLines (matcher : Matcher) (options : Options) (lines : List Bytes)
    (markers : List Marker) :
    (start.feedLines matcher options lines).2.forest.strays markers =
      (Offline.forest lines).strays markers := by
  rcases dropped_start.feedLines matcher options lines with ⟨base, -, -, hforest, -⟩
  have hstart : Forest.empty.beside start.forest = Forest.empty := Forest.beside_empty rfl
  have hall := Offline.unmarked_scan_empty matcher options.scopes lines
  rw [hstart] at hforest
  have hsame : (base.beside (start.feedLines matcher options lines).2.forest).unmarked =
      (Offline.forest lines).unmarked := by
    rw [← hall, Forest.unmarked_unmarked]
    exact congrArg Forest.unmarked hforest
  rw [← Forest.strays_beside base, Forest.strays_eq_of_unmarked_eq hsame]

end Search

/-! ## Sums over a run -/

namespace Step.Accounts

/-- What is selected from the records of a line, where matches are left out: something of the
ignored closers, and something of the checkpoint. -/
theorem filterMap_events {α : Type} {select : Event → Option α}
    (hselect : ∀ line column text, select (.matchOutside line column text) = none)
    (h : step.Accounts matcher s text) :
    step.events.filterMap select =
      (s.forest.strays (Marker.onLine text s.linesRead)).filterMap (select ∘ .strayCloser) ++
        if step.reports = [] then []
        else (select (.checkpoint s.linesRead step.reports.length)).toList := by
  have hmatch : ∀ found : Option Span, (found.map fun span =>
      Event.matchOutside s.linesRead span.start text).toList.filterMap select = [] := by
    intro found
    cases found with
    | none => rfl
    | some span => simp [hselect]
  rw [h.events_eq, List.filterMap_append, List.filterMap_append, hmatch, List.append_nil,
    List.filterMap_map]
  split
  · rfl
  · rw [List.filterMap_cons, List.filterMap_nil]
    cases select (.checkpoint s.linesRead step.reports.length) <;> rfl

/-- A line logs the closers that it ignores, in their order. -/
theorem filterMap_stray? (h : step.Accounts matcher s text) :
    step.events.filterMap Event.stray? = s.forest.strays (Marker.onLine text s.linesRead) := by
  rw [h.filterMap_events fun _ _ _ => rfl]
  have hnone : (if step.reports = [] then []
      else (Event.stray? (.checkpoint s.linesRead step.reports.length)).toList) = [] :=
    ite_self _
  rw [hnone, List.append_nil]
  exact List.filterMap_some

/-- The checkpoint of a line counts the reports that the line releases. -/
theorem sum_released? (h : step.Accounts matcher s text) :
    (step.events.filterMap Event.released?).sum = step.reports.length := by
  have hignored : ∀ strays : List Stray,
      strays.filterMap (Event.released? ∘ .strayCloser) = [] :=
    fun _ => List.filterMap_eq_nil_iff.2 fun _ _ => rfl
  rw [h.filterMap_events fun _ _ _ => rfl, hignored, List.nil_append]
  split
  · rename_i hnone
    rw [hnone]
    rfl
  · exact Nat.add_zero _

end Step.Accounts

/-- The closers that a run logs as ignored are those that the forest of its lines ignores. -/
theorem ignored_feedLines (matcher : Matcher) (options : Options) (lines : List Bytes) :
    ((Search.start.feedLines matcher options lines).1.flatMap Step.events).filterMap Event.stray? =
      Forest.empty.strays (Offline.markersFrom 0 lines) := by
  induction lines using List.reverseRecOn with
  | nil => rfl
  | append_singleton before text ih =>
    let s := (Search.start.feedLines matcher options before).2
    have hread : s.linesRead = before.length :=
      Search.linesRead_feedLines_start matcher options before
    have hlast : (s.feedLine matcher options text).events.filterMap Event.stray? =
        (Offline.forest before).strays (Marker.onLine text before.length) := by
      have haccounts := Search.accounts_feedLine
        (Search.usedInOrder_feedLines matcher options before) matcher options text
      rw [haccounts.filterMap_stray?, Search.strays_feedLines, hread]
    have hmarkers : Offline.markersFrom 0 (before ++ [text]) =
        Offline.markersFrom 0 before ++ Marker.onLine text before.length := by
      rw [Offline.markersFrom_append, Offline.markersFrom_cons, Nat.zero_add]
      exact congrArg (_ ++ ·) (List.append_nil _)
    rw [Search.feedLines_append, hmarkers, Forest.strays_append, ← ih]
    simp only [List.flatMap_append, List.filterMap_append]
    refine congrArg (_ ++ ·) ?_
    rw [← Offline.forest, ← hlast]
    exact congrArg _ (List.append_nil _)

/-- All the reports that the lines of a run release are counted by its checkpoints. -/
theorem sum_released?_feedLines (matcher : Matcher) (options : Options) (lines : List Bytes) :
    let steps := (Search.start.feedLines matcher options lines).1
    ((steps.flatMap Step.events).filterMap Event.released?).sum =
      (steps.flatMap Step.reports).length := by
  have hsum : ∀ steps : List Step,
      (∀ step ∈ steps, (step.events.filterMap Event.released?).sum = step.reports.length) →
      ((steps.flatMap Step.events).filterMap Event.released?).sum =
        (steps.flatMap Step.reports).length := by
    intro steps hsteps
    induction steps with
    | nil => rfl
    | cons step rest ih =>
      rw [List.forall_mem_cons] at hsteps
      rw [List.flatMap_cons, List.flatMap_cons, List.filterMap_append, List.sum_append,
        List.length_append, hsteps.1, ih hsteps.2]
  refine hsum _ fun step hstep => ?_
  rcases Search.accounts_of_mem_feedLines matcher options hstep with ⟨s, text, haccounts⟩
  exact haccounts.sum_released?

/-! ## The log of a run -/

end ScopeSearch
