import ScopeSearch.Proofs.Forest.Lookup
import ScopeSearch.Proofs.Marker.Scan
import ScopeSearch.Proofs.Search.Checkpoint

/-!
# ScopeSearch.Proofs.Search.Unfailing — reading lines never fails

Reading a line cuts the line, looks scopes up by their ids and names the line before. In `Strict`
each step is written out with everything in it that could fail: a cut beyond the end of the line, an
id that names no scope, and a checkpoint before the first line.

* `Strict.feedLine_eq`, `Strict.feedLines_eq` — nothing fails while lines are read, whatever spans
  the matcher answers;
* `Strict.finish_eq` — nor when the input ends.
-/

namespace ScopeSearch.Search

variable {s : Search}

/-- What a search holds is well-formed after each line. -/
theorem wellFormed_feedLine (hs : s.forest.WellFormed) (matcher : Matcher) (options : Options)
    (text : Bytes) : (s.feedLine matcher options text).search.forest.WellFormed := by
  rcases (feedLine_cases matcher options s text).2 with ⟨-, -, hforest⟩ | ⟨-, -, -, hforest⟩
  · rw [hforest]
    exact (hs.apply _).of_unmarked_eq (Forest.unmarked_scanLine matcher _ _ s.forest text)
  · rw [hforest]
    exact Forest.wellFormed_empty

/-! ## Steps with their lookups and cuts -/

/-- Why a step fails. -/
inductive Fault where
  | cutBeyond (cut : Marker.CutBeyond)
  | unknownScope (unknown : UnknownScope)
  /-- A checkpoint names the line before it, and there is none. -/
  | noLineBefore
deriving DecidableEq, Repr

namespace Strict

/-- Marks the scopes for a match; each scope that is looked at on the way is looked up. -/
def markMatch (scopes number : Nat) (text : Bytes) (f : Forest) :
    Option Span → Except Fault (Forest × List Event)
  | none => .ok (f, [])
  | some span => do
    let found ← (Forest.Strict.innermostContaining? f number span).mapError .unknownScope
    match found with
    | some id =>
      let (marked, _) ← (Forest.Strict.mark f scopes id).mapError .unknownScope
      return (marked, [])
    | none => return (f, [.matchOutside number span.start text])

/-- The number of the line read last. -/
def lineBefore (s : Search) : Except Fault Nat :=
  if s.linesRead = 0 then .error .noLineBefore else .ok (s.linesRead - 1)

/-- Reports the marked scopes and drops everything held. -/
def checkpoint (s : Search) : Except Fault Step := do
  let (reports, flushed) ← (Forest.Strict.flushClosed s.forest).mapError .unknownScope
  let search := { s with forest := flushed.release, buffer := #[] }
  if reports.isEmpty then return ⟨search, reports, []⟩
  else
    let line ← lineBefore s
    return ⟨search, reports, [.checkpoint line reports.length]⟩

/-- Ends a line that has been read and marked: with no scope open it is a checkpoint. -/
def endLine (s : Search) (events : List Event) : Except Fault Step :=
  if s.depth = 0 then do
    let step ← checkpoint s
    return { step with events := events ++ step.events }
  else .ok ⟨s, [], events⟩

/-- Reads one line. -/
def feedLine (matcher : Matcher) (options : Options) (s : Search) (text : Bytes) :
    Except Fault Step := do
  let number := s.linesRead
  let markers ← (Marker.scanLine text number).mapError .cutBeyond
  let read ← (Forest.Strict.apply s.forest markers).mapError .unknownScope
  let buffer := if read.depth = 0 then s.buffer else s.buffer.push ⟨number, text⟩
  let (marked, outside) ← markMatch options.scopes number text read (matcher number text)
  endLine ⟨marked, buffer, number + 1⟩ ((s.forest.strays markers).map .strayCloser ++ outside)

/-- Reads lines one after the other. -/
def feedLines (matcher : Matcher) (options : Options) (s : Search) :
    List Bytes → Except Fault (List Step × Search)
  | [] => .ok ([], s)
  | line :: rest => do
    let step ← feedLine matcher options s line
    let (steps, final) ← feedLines matcher options step.search rest
    return (step :: steps, final)

/-- Ends the input. -/
def finish (s : Search) : Except Fault Ending := do
  let (closedReports, flushed) ← (Forest.Strict.flushClosed s.forest).mapError .unknownScope
  let openReports ← (Forest.Strict.openReports flushed).mapError .unknownScope
  return {
    reports := closedReports ++ openReports
    events :=
      if openReports.isEmpty then [] else [.inputEnded flushed.depth openReports.length] }

/-! ## Every step succeeds -/

/-- What comes after a step that has succeeded. -/
theorem ok_bind {α β ε : Type} {step : Except ε α} {a : α} (h : step = .ok a) (fault : ε → Fault)
    (next : α → Except Fault β) : (step.mapError fault >>= next) = next a := by
  rw [h]
  rfl

theorem markMatch_eq {f : Forest} (hf : f.WellFormed) (scopes number : Nat) (text : Bytes)
    (found : Option Span) :
    markMatch scopes number text f found = .ok (Search.markMatch scopes number text f found) := by
  cases found with
  | none => rfl
  | some span =>
    unfold markMatch Search.markMatch
    dsimp only
    rw [ok_bind (Forest.Strict.innermostContaining?_eq hf number span)]
    cases hid : f.innermostContaining? number span with
    | none => rfl
    | some id =>
      -- a scope that has been found can be marked
      have hlt : id < f.size := Forest.lt_size_of_contains (List.find?_some hid)
      exact ok_bind (Forest.Strict.mark_eq_of_lt hf.parentsOlder scopes hlt) _ _

theorem checkpoint_eq (hs : s.forest.WellFormed) (hread : s.linesRead ≠ 0) :
    checkpoint s = .ok s.checkpoint := by
  unfold checkpoint Search.checkpoint
  rw [ok_bind (Forest.Strict.flushClosed_eq hs)]
  cases hreports : s.forest.flushClosed.1.isEmpty with
  | true =>
    simp only [hreports, if_true]
    rfl
  | false =>
    simp only [hreports, Bool.false_eq_true, if_false, lineBefore, hread]
    rfl

theorem endLine_eq (hs : s.forest.WellFormed) (hread : s.linesRead ≠ 0) (events : List Event) :
    endLine s events = .ok (
      if s.depth = 0 then { s.checkpoint with events := events ++ s.checkpoint.events }
      else ⟨s, [], events⟩) := by
  unfold endLine
  by_cases hdepth : s.depth = 0
  · rw [if_pos hdepth, if_pos hdepth, checkpoint_eq hs hread]
    rfl
  · rw [if_neg hdepth, if_neg hdepth]

/-- A line is read without a fault, whatever span the matcher answers. -/
theorem feedLine_eq (hs : s.forest.WellFormed) (matcher : Matcher) (options : Options)
    (text : Bytes) :
    feedLine matcher options s text = .ok (s.feedLine matcher options text) := by
  have hread := hs.apply (Marker.onLine text s.linesRead)
  have hmarked : (s.forest.scanLine matcher options.scopes s.linesRead text).WellFormed :=
    hread.of_unmarked_eq (Forest.unmarked_scanLine matcher _ _ s.forest text)
  unfold feedLine
  rw [ok_bind (Marker.scanLine_eq text s.linesRead),
    ok_bind (Forest.Strict.apply_eq hs (Marker.onLine text s.linesRead))]
  dsimp only
  rw [markMatch_eq hread]
  -- the line that a checkpoint names is the one just read
  exact endLine_eq (s := ⟨_, _, s.linesRead + 1⟩) hmarked (Nat.succ_ne_zero s.linesRead) _

/-- Lines are read without a fault. -/
theorem feedLines_eq (hs : s.forest.WellFormed) (matcher : Matcher) (options : Options)
    (lines : List Bytes) :
    feedLines matcher options s lines = .ok (s.feedLines matcher options lines) := by
  induction lines generalizing s with
  | nil => rfl
  | cons text rest ih =>
    have hrest := ih (wellFormed_feedLine hs matcher options text)
    unfold feedLines
    rw [feedLine_eq hs]
    show (feedLines matcher options (s.feedLine matcher options text).search rest >>= _) = _
    rw [hrest]
    rfl

/-- The input ends without a fault. -/
theorem finish_eq (hs : s.forest.WellFormed) : finish s = .ok s.finish := by
  unfold finish
  rw [ok_bind (Forest.Strict.flushClosed_eq hs)]
  exact ok_bind (Forest.Strict.openReports_eq hs.flushClosed) _ _

end Strict

end ScopeSearch.Search
