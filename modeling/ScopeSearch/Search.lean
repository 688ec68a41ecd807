import ScopeSearch.Forest.Flushing
import ScopeSearch.Line
import ScopeSearch.Log
import ScopeSearch.Matcher

/-!
# ScopeSearch.Search — searching line by line

Each line is read in the same steps: its delimiters open and close scopes, its first match is
looked for, and the tightest scope around the match is marked with some of the scopes around it.
When the nesting is back to zero after a line, the line is a checkpoint: the marked scopes are
reported and everything held so far is dropped. What is held is therefore never more than the lines
and scopes since the last checkpoint.
-/

namespace ScopeSearch

/-- How to search. -/
structure Options where
  /-- How many scopes to mark for a match: the tightest one around it, and the scopes around
  that. -/
  scopes : Nat := 1
  /-- Leave out the lines around a report. Accepted, without effect: no report has any. -/
  only : Bool := false
  /-- Print in colour. Accepted, without effect: output is always plain. -/
  pretty : Bool := false
deriving DecidableEq, Repr

/-- Where a search stands between two lines. -/
structure Search where
  forest : Forest
  /-- The lines since the last checkpoint that left a scope open. -/
  buffer : Array Line
  linesRead : Nat
deriving DecidableEq, Repr

/-- What reading a line comes to. -/
structure Step where
  /-- Where the search stands afterwards. -/
  search : Search
  /-- The reports that the line released. -/
  reports : List Report
  /-- The records that were logged. -/
  events : List Event
deriving DecidableEq, Repr

/-- What ending the input comes to. -/
structure Ending where
  reports : List Report
  events : List Event
deriving DecidableEq, Repr

namespace Search

/-- Nothing has been read. -/
def start : Search := ⟨Forest.empty, #[], 0⟩

instance : Inhabited Search := ⟨start⟩

/-- The number of open scopes. -/
def depth (s : Search) : Nat :=
  s.forest.depth

/-- The number of closed scopes that wait for the next checkpoint. -/
def pendingClosed (s : Search) : Nat :=
  s.forest.closed.size

/-- Marks the scopes for a match on line `number`; a match outside every scope is logged. -/
def markMatch (scopes number : Nat) (text : Bytes) (f : Forest) : Option Span → Forest × List Event
  | none => (f, [])
  | some span =>
    match f.innermostContaining? number span with
    | some id => ((f.mark scopes id).1, [])
    | none => (f, [.matchOutside number span.start text])

/-- Reports the marked scopes and drops everything held. The nesting is back to zero after the line
read last, which is the one before line `linesRead`. -/
def checkpoint (s : Search) : Step :=
  let (reports, flushed) := s.forest.flushClosed
  { search := { s with forest := flushed.release, buffer := #[] }
    reports
    events := if reports.isEmpty then [] else [.checkpoint (s.linesRead - 1) reports.length] }

/-- Reads one line, whatever bytes it holds. -/
def feedLine (matcher : Matcher) (options : Options) (s : Search) (text : Bytes) : Step :=
  let number := s.linesRead
  let (read, strays) := s.forest.readAll (Marker.onLine text number)
  let buffer := if read.depth = 0 then s.buffer else s.buffer.push ⟨number, text⟩
  let (marked, outside) := markMatch options.scopes number text read (matcher number text)
  let after : Search := ⟨marked, buffer, number + 1⟩
  let events := strays.map .strayCloser ++ outside
  if marked.depth = 0 then
    let step := after.checkpoint
    { step with events := events ++ step.events }
  else ⟨after, [], events⟩

/-- Reads lines one after the other: what each comes to, and where the search stands at the end. -/
def feedLines (matcher : Matcher) (options : Options) (s : Search) :
    List Bytes → List Step × Search
  | [] => ([], s)
  | line :: rest =>
    let step := s.feedLine matcher options line
    let (steps, final) := step.search.feedLines matcher options rest
    (step :: steps, final)

/-- Ends the input: the closed scopes that were waiting are reported, and then the marked scopes
that never closed, outermost first. -/
def finish (s : Search) : Ending :=
  let (closedReports, flushed) := s.forest.flushClosed
  let openReports := flushed.openReports
  { reports := closedReports ++ openReports
    events :=
      if openReports.isEmpty then [] else [.inputEnded flushed.depth openReports.length] }

/-- Reading two stretches of lines one after the other is reading them as one. -/
theorem feedLines_append (matcher : Matcher) (options : Options) (s : Search)
    (before after : List Bytes) :
    s.feedLines matcher options (before ++ after) =
      let (steps, middle) := s.feedLines matcher options before
      let (later, final) := middle.feedLines matcher options after
      (steps ++ later, final) := by
  induction before generalizing s with
  | nil => rfl
  | cons line rest ih => simp [feedLines, ih]

end Search

end ScopeSearch
