import ScopeSearch.Search

/-!
# ScopeSearch.Run — from a text to the reports written for it

A run reads a text line by line and writes the reports that each line releases before it reads the
next, and in the end those that the end of the input releases. Lines end at a line break; a last
line without one is not searched.

Reading and writing may fail. `Source` and `Sink` say how much they give or take before they do,
and the first fault that is met ends the run: what has been written stays written. Only a call that
is interrupted is made again.
-/

namespace ScopeSearch

/-- The byte that ends a line. -/
def lineBreak : UInt8 := 0x0A

/-- Why reading or writing failed. -/
structure IoFault where
  kind : String
  message : String
deriving DecidableEq, Repr

namespace IoFault

/-- The call was interrupted: it is made again, and then it goes on as if nothing had happened. -/
def isInterruption (fault : IoFault) : Bool :=
  fault.kind = "Interrupted"

/-- What sets an end to reading or writing, and where: an interruption does not. -/
def lasting (limit : Option (Nat × IoFault)) : Option (Nat × IoFault) :=
  limit.filter fun limit => !limit.2.isInterruption

@[simp] theorem lasting_none : lasting none = none :=
  rfl

@[simp] theorem lasting_some (n : Nat) (fault : IoFault) :
    lasting (some (n, fault)) = if fault.isInterruption then none else some (n, fault) := by
  cases h : fault.isInterruption <;> simp [lasting, Option.filter, h]

/-- The fault of a sink that takes no more bytes and does not say why. -/
def full : IoFault := ⟨"WriteZero", "failed to write whole buffer"⟩

end IoFault

/-- Where the text comes from. -/
structure Source where
  text : Bytes
  /-- After how many bytes reading fails, and why; `none` if the whole text is read and then
  ends. -/
  fault : Option (Nat × IoFault) := none
deriving DecidableEq, Repr

namespace Source

/-- Takes one byte: how many more can be taken, or why none can. After an interruption nothing is in
the way any more. -/
def spend : Option (Nat × IoFault) → Except IoFault (Option (Nat × IoFault))
  | none => .ok none
  | some (0, fault) => if fault.isInterruption then .ok none else .error fault
  | some (n + 1, fault) => .ok (some (n, fault))

/-- Reads byte by byte up to and with the next line break, or else up to the end of the text: what
was read, and what the source holds after it. -/
def readLine (limit : Option (Nat × IoFault)) : Bytes → Except IoFault (Bytes × Source)
  | [] =>
    match IoFault.lasting limit with
    | some (_, fault) => .error fault
    | none => .ok ([], ⟨[], none⟩)
  | b :: rest =>
    match spend limit with
    | .error fault => .error fault
    | .ok later =>
      if b = lineBreak then .ok ([b], ⟨rest, later⟩)
      else (readLine later rest).map fun (line, source) => (b :: line, source)

/-- What has been read is gone from the source. -/
theorem length_readLine {text line : Bytes} {limit : Option (Nat × IoFault)} {source : Source}
    (h : readLine limit text = .ok (line, source)) :
    text.length = line.length + source.text.length := by
  induction text generalizing limit line with
  | nil =>
    unfold readLine at h
    split at h
    · cases h
    · cases h
      rfl
  | cons b rest ih =>
    unfold readLine at h
    cases hspend : spend limit with
    | error fault => simp [hspend] at h
    | ok later =>
      simp only [hspend] at h
      split at h
      · cases h
        simp [Nat.add_comm]
      · cases hread : readLine later rest with
        | error fault => simp [hread, Except.map] at h
        | ok read =>
          rw [hread] at h
          cases h
          have hlength := ih hread
          simp only [List.length_cons]
          omega

end Source

/-- Where the reports go. -/
structure Sink where
  /-- How many bytes there is room for, and why writing more fails; `none` if all can be written. -/
  limit : Option (Nat × IoFault) := none
  /-- Why the last flush fails, if it does. The flush is not tried again. -/
  flushFault : Option IoFault := none
deriving DecidableEq, Repr

/-- Of two limits the one that is reached first, and of equal ones the first. An interruption is no
limit. -/
def Sink.tighterLimit (a b : Option (Nat × IoFault)) : Option (Nat × IoFault) :=
  match IoFault.lasting a, IoFault.lasting b with
  | some a, some b => if b.1 < a.1 then some b else some a
  | a, b => a.or b

/-- There is no room for all that is to be written: how much there is room for, and the fault. A
call that is interrupted is made again, and so all is written. -/
def Sink.overrun? (sink : Sink) (bytes : Bytes) : Option (Nat × IoFault) :=
  (IoFault.lasting sink.limit).filter fun limit => limit.1 < bytes.length

/-- What a finished run has read and written. -/
structure Summary where
  lines : Nat := 0
  reports : Nat := 0
  /-- How many of the reports have no end. -/
  unterminated : Nat := 0
deriving DecidableEq, Repr

/-- What a run comes to. -/
structure Outcome where
  result : Except IoFault Summary
  written : Bytes
  /-- How often the sink was flushed. -/
  flushes : Nat
  events : List Event

/-- How far a run has come. -/
structure Progress where
  summary : Summary := {}
  written : Bytes := []
  events : List Event := []

namespace Progress

/-- The run ends here by a fault. -/
def failed (p : Progress) (fault : IoFault) : Outcome :=
  ⟨.error fault, p.written, 0, p.events⟩

/-- How far the run has come once one more report is written, on a line of its own. -/
def wroteReport (p : Progress) (r : Report) : Progress :=
  { p with
    summary.reports := p.summary.reports + 1
    summary.unterminated := p.summary.unterminated + if r.isUnterminated then 1 else 0
    written := p.written ++ Text.utf8 r.lineText }

/-- Writes one report; if there is no room for all of it, the run ends with the sink filled up. -/
def writeReport (sink : Sink) (p : Progress) (r : Report) : Except Outcome Progress :=
  match sink.overrun? (p.wroteReport r).written with
  | some (room, fault) =>
    .error ({ p with written := (p.wroteReport r).written.take room }.failed fault)
  | none => .ok (p.wroteReport r)

/-- Writes reports one after the other. -/
def writeReports (sink : Sink) (p : Progress) (reports : List Report) : Except Outcome Progress :=
  reports.foldlM (writeReport sink) p

/-- Counts a line and logs what it has come to. -/
def lineRead (p : Progress) (events : List Event) : Progress :=
  { p with summary.lines := p.summary.lines + 1, events := p.events ++ events }

/-- Logs and writes what the end of the input has come to, with `fragment` left over, and flushes
the sink. -/
def finish (sink : Sink) (p : Progress) (ending : Ending) (fragment : Bytes) : Outcome :=
  let dropped := if fragment.isEmpty then [] else [Event.fragmentDropped fragment.length]
  let logged := { p with events := p.events ++ (dropped ++ ending.events) }
  match logged.writeReports sink ending.reports with
  | .error outcome => outcome
  | .ok p =>
    { result :=
        match sink.flushFault with
        | some fault => .error fault
        | none => .ok p.summary
      written := p.written
      flushes := 1
      events := p.events }

end Progress

/-- Goes on from where a search and a run stand: each line is searched and its reports are written
before the next is read. -/
def runFrom (matcher : Matcher) (options : Options) (sink : Sink) (source : Source) (s : Search)
    (p : Progress) : Outcome :=
  match _ : Source.readLine source.fault source.text with
  | .error fault => p.failed fault
  | .ok (line, rest) =>
    if line.getLast? = some lineBreak then
      let step := s.feedLine matcher options line
      match (p.lineRead step.events).writeReports sink step.reports with
      | .error outcome => outcome
      | .ok p => runFrom matcher options sink rest step.search p
    else p.finish sink s.finish line
termination_by source.text.length
decreasing_by
  rename_i hread hbreak
  have hlength := Source.length_readLine hread
  have hpos : 0 < line.length := List.length_pos_iff.2 fun hnil => by simp [hnil] at hbreak
  omega

/-- Searches the text of `source` and writes the reports to `sink`. -/
def run (matcher : Matcher) (options : Options) (source : Source) (sink : Sink) : Outcome :=
  runFrom matcher options sink source Search.start {}

end ScopeSearch
