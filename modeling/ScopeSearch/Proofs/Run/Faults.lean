import ScopeSearch.Run

/-!
# ScopeSearch.Proofs.Run.Faults — what a run comes to, whatever fails

A run reads, searches and writes by turns, and each turn may meet a fault. The source may fail
inside a line or between two, the sink inside a report, and the flush at the end; several faults may
lie in wait at once. Reading and writing go on after an interruption, so only lasting faults count.

* `Source.readLine_of_cons`, `Source.readLine_of_nil` — the lines that are read are those of the
  bytes that the source gives before it fails;
* `Report.utf8_lineText` — what is written for a report is its line, byte by byte;
* `Progress.writeReports_cases` — reports are written in full as far as there is room for them;
* `runFrom_settles` — from any point on, a run comes to what its reports and the faults say;
* `seen_run`, `run_under_faults` — so does a whole run;
* `seen_run_of_interruption` — and an interruption makes no difference to it.
-/

namespace ScopeSearch

variable {matcher : Matcher} {options : Options} {sink : Sink} {p : Progress}

/-! ## Lines -/

/-- The lines of a text, each with its line break, and what follows the last of them. -/
def splitLines (text : Bytes) : List Bytes × Bytes :=
  let pieces := text.splitOn lineBreak
  (pieces.dropLast.map (· ++ [lineBreak]), pieces.getLast?.getD [])

@[simp] theorem splitLines_nil : splitLines [] = ([], []) := by
  simp [splitLines]

theorem splitLines_lineBreak (rest : Bytes) :
    splitLines (lineBreak :: rest) = ([lineBreak] :: (splitLines rest).1, (splitLines rest).2) := by
  unfold splitLines
  rw [List.splitOn_cons_eq_if_modifyHead, if_pos (beq_self_eq_true _)]
  rcases List.exists_cons_of_ne_nil (List.splitOn_ne_nil lineBreak rest) with
    ⟨piece, pieces, hpieces⟩
  simp [hpieces]

theorem splitLines_cons {b : UInt8} (hb : b ≠ lineBreak) (rest : Bytes) :
    splitLines (b :: rest) =
      match splitLines rest with
      | ([], fragment) => ([], b :: fragment)
      | (line :: lines, fragment) => ((b :: line) :: lines, fragment) := by
  unfold splitLines
  rw [List.splitOn_cons_eq_if_modifyHead, if_neg (by simpa using hb)]
  rcases List.exists_cons_of_ne_nil (List.splitOn_ne_nil lineBreak rest) with
    ⟨piece, pieces, hpieces⟩
  cases pieces with
  | nil => simp [hpieces]
  | cons next others => simp [hpieces]

/-- A text has as many lines as line breaks. -/
theorem length_splitLines (text : Bytes) :
    (splitLines text).1.length = text.count lineBreak := by
  induction text with
  | nil => simp
  | cons b rest ih =>
    by_cases hb : b = lineBreak
    · rw [hb, splitLines_lineBreak, List.count_cons_self, List.length_cons, ih]
    · rw [List.count_cons_of_ne hb, ← ih, splitLines_cons hb]
      cases h : splitLines rest with
      | mk lines fragment => cases lines <;> rfl

namespace Source

/-- The bytes that are read before the text ends or reading fails. -/
def delivered (source : Source) : Bytes :=
  match IoFault.lasting source.fault with
  | some (limit, _) => source.text.take limit
  | none => source.text

/-- The next byte is not given, or it is and the source gives the rest after it, with the same fault
in wait. An interruption is in nobody's way. -/
theorem spend_cases (limit : Option (Nat × IoFault)) (b : UInt8) (rest : Bytes) :
    (∃ fault, IoFault.lasting limit = some (0, fault) ∧ spend limit = .error fault) ∨
      ∃ later, spend limit = .ok later ∧
        (IoFault.lasting later).map Prod.snd = (IoFault.lasting limit).map Prod.snd ∧
        (Source.mk (b :: rest) limit).delivered = b :: (Source.mk rest later).delivered := by
  match limit with
  | none => exact .inr ⟨none, rfl, rfl, rfl⟩
  | some (0, fault) =>
    cases hkind : fault.isInterruption with
    | true => exact .inr ⟨none, by simp [spend, delivered, hkind]⟩
    | false => exact .inl ⟨fault, by simp [spend, hkind]⟩
  | some (n + 1, fault) =>
    refine .inr ⟨some (n, fault), rfl, ?_⟩
    cases hkind : fault.isInterruption <;> simp [delivered, hkind]

/-- Where a line is given, it is read, and the lines after it are still there. -/
theorem readLine_of_cons {text line fragment : Bytes} {limit : Option (Nat × IoFault)}
    {lines : List Bytes}
    (h : splitLines (Source.mk text limit).delivered = (line :: lines, fragment)) :
    line.getLast? = some lineBreak ∧ ∃ rest, readLine limit text = .ok (line, rest) ∧
      splitLines rest.delivered = (lines, fragment) ∧
      (IoFault.lasting rest.fault).map Prod.snd = (IoFault.lasting limit).map Prod.snd := by
  induction text generalizing limit line with
  | nil =>
    have hnone : (Source.mk [] limit).delivered = [] := by
      unfold delivered
      split <;> simp
    rw [hnone, splitLines_nil] at h
    cases h
  | cons b text ih =>
    rcases spend_cases limit b text with ⟨fault, hlimit, -⟩ | ⟨later, hspend, hfault, hgiven⟩
    · simp [delivered, hlimit] at h
    · rw [hgiven] at h
      by_cases hb : b = lineBreak
      · -- the line ends here, and the source goes on after it
        subst hb
        rw [splitLines_lineBreak] at h
        cases h
        refine ⟨rfl, ⟨text, later⟩, ?_, rfl, hfault⟩
        simp [readLine, hspend]
      · rw [splitLines_cons hb] at h
        cases hrest : splitLines (Source.mk text later).delivered with
        | mk others fragment' =>
          rw [hrest] at h
          cases others with
          | nil => cases h
          | cons line' lines' =>
            cases h
            rcases ih hrest with ⟨hlast, rest, hread, hlines, hsame⟩
            have hne : line' ≠ [] := by
              rintro rfl
              cases hlast
            refine ⟨?_, rest, ?_, hlines, hsame.trans hfault⟩
            · rw [List.getLast?_cons_of_ne_nil hne]
              exact hlast
            · simp [readLine, hspend, hb, hread, Except.map]

/-- Where no line is given, the fault is met, or what is left of the text is read. -/
theorem readLine_of_nil {text fragment : Bytes} {limit : Option (Nat × IoFault)}
    (h : splitLines (Source.mk text limit).delivered = ([], fragment)) :
    (∃ fault, (IoFault.lasting limit).map Prod.snd = some fault ∧
        readLine limit text = .error fault) ∨
      (IoFault.lasting limit = none ∧ readLine limit text = .ok (fragment, ⟨[], none⟩)) := by
  induction text generalizing limit fragment with
  | nil =>
    cases hlimit : IoFault.lasting limit with
    | none =>
      simp only [delivered, hlimit, splitLines_nil, Prod.mk.injEq, true_and] at h
      exact .inr ⟨rfl, by simp [readLine, hlimit, ← h]⟩
    | some limit => exact .inl ⟨limit.2, rfl, by simp [readLine, hlimit]⟩
  | cons b text ih =>
    rcases spend_cases limit b text with ⟨fault, hlimit, hspend⟩ | ⟨later, hspend, hfault, hgiven⟩
    · exact .inl ⟨fault, by simp [hlimit], by simp [readLine, hspend]⟩
    · rw [hgiven] at h
      by_cases hb : b = lineBreak
      · subst hb
        rw [splitLines_lineBreak] at h
        cases h
      · rw [splitLines_cons hb] at h
        cases hrest : splitLines (Source.mk text later).delivered with
        | mk others fragment' =>
          rw [hrest] at h
          cases others with
          | cons line lines => cases h
          | nil =>
            cases h
            rcases ih hrest with ⟨fault, hlater, hread⟩ | ⟨hnone, hread⟩
            · refine .inl ⟨fault, hfault ▸ hlater, ?_⟩
              simp [readLine, hspend, hb, hread, Except.map]
            · rw [hnone, Option.map_none] at hfault
              refine .inr ⟨Option.map_eq_none_iff.1 hfault.symm, ?_⟩
              simp [readLine, hspend, hb, hread, Except.map]

end Source

/-- What follows the last line ends with no line break. -/
theorem getLast?_fragment_ne {text fragment : Bytes} {lines : List Bytes}
    (h : splitLines text = (lines, fragment)) : fragment.getLast? ≠ some lineBreak := by
  induction text generalizing lines fragment with
  | nil =>
    cases h
    simp
  | cons b rest ih =>
    by_cases hb : b = lineBreak
    · subst hb
      rw [splitLines_lineBreak] at h
      cases h
      exact ih rfl
    · rw [splitLines_cons hb] at h
      cases hrest : splitLines rest with
      | mk others fragment' =>
        rw [hrest] at h
        have hlast := ih hrest
        cases others with
        | cons line lines' =>
          cases h
          exact hlast
        | nil =>
          cases h
          cases fragment' with
          | nil => simpa using hb
          | cons b' others' =>
            rw [List.getLast?_cons_cons]
            exact hlast

/-! ## Writing -/

/-- The decimal digits of a number. -/
def decimal (n : Nat) : Bytes :=
  (Nat.toDigits 10 n).map fun c => c.val.toUInt8

/-- A place as it is written: line and column, with a colon between them. -/
def renderPosition (p : Position) : Bytes :=
  decimal p.line ++ [0x3A] ++ decimal p.column

/-- A report as it is written: its two ends with a dash between blanks, a star if it has no end, and
a line break. -/
def renderReport : Report → Bytes
  | ⟨start, some stop⟩ =>
    renderPosition start ++ [0x20, 0x2D, 0x20] ++ renderPosition stop ++ [lineBreak]
  | ⟨start, none⟩ => renderPosition start ++ [0x20, 0x2D, 0x20] ++ [0x2A] ++ [lineBreak]

/-- Reports as they are written, one line each. -/
def renderReports (reports : List Report) : Bytes :=
  reports.flatMap renderReport

theorem isDigit_of_mem_repr {n : Nat} {c : Char} (hc : c ∈ n.repr.toList) : c.isDigit = true := by
  rw [Nat.toList_repr] at hc
  exact Nat.isDigit_of_mem_toDigits (by decide) (by decide) hc

theorem utf8_repr (n : Nat) : Text.utf8 n.repr = decimal n := by
  rw [decimal, ← Nat.toList_repr, ← Text.utf8_ofList_of_digits fun _ => isDigit_of_mem_repr,
    String.ofList_toList]

theorem Position.utf8_text (p : Position) : Text.utf8 p.text = renderPosition p := by
  rw [Position.text, Text.utf8_append, Text.utf8_append, utf8_repr, utf8_repr]
  rfl

/-- What is written for a report is its line. -/
theorem Report.utf8_lineText (r : Report) : Text.utf8 r.lineText = renderReport r := by
  rcases r with ⟨start, _ | stop⟩
  all_goals
    simp only [lineText, text, Text.utf8_append, Position.utf8_text, Option.map_none,
      Option.map_some, Option.getD_none, Option.getD_some]
    rfl

theorem renderReports_append (before after : List Report) :
    renderReports (before ++ after) = renderReports before ++ renderReports after := by
  simp [renderReports]

/-- What is too much stays too much when more follows, and fills the sink with the same bytes. -/
theorem Sink.overrun?_append {bytes : Bytes} {room : Nat} {fault : IoFault}
    (h : sink.overrun? bytes = some (room, fault)) (more : Bytes) :
    sink.overrun? (bytes ++ more) = some (room, fault) ∧
      (bytes ++ more).take room = bytes.take room := by
  rcases Option.filter_eq_some_iff.1 h with ⟨hlimit, hroom⟩
  have hlt : room < bytes.length := of_decide_eq_true hroom
  constructor
  · refine Option.filter_eq_some_iff.2 ⟨hlimit, decide_eq_true ?_⟩
    rw [List.length_append]
    exact Nat.lt_add_right more.length hlt
  · exact List.take_append_of_le_length (Nat.le_of_lt hlt)

namespace Progress

/-- How far the run has come once some reports are written. -/
def wrote (p : Progress) (reports : List Report) : Progress :=
  { p with
    summary.reports := p.summary.reports + reports.length
    summary.unterminated := p.summary.unterminated + reports.countP Report.isUnterminated
    written := p.written ++ renderReports reports }

@[simp] theorem wrote_nil (p : Progress) : p.wrote [] = p := by
  simp [wrote, renderReports]

theorem wrote_cons (p : Progress) (r : Report) (rest : List Report) :
    p.wrote (r :: rest) = (p.wroteReport r).wrote rest := by
  unfold wrote wroteReport renderReports
  rw [List.length_cons, List.countP_cons, List.flatMap_cons, List.append_assoc,
    Nat.add_comm rest.length, Nat.add_comm (rest.countP _), Nat.add_assoc, Nat.add_assoc,
    Report.utf8_lineText]

/-- Reports are written in full if there is room for them all; else the sink is filled up. -/
theorem writeReports_cases (hp : sink.overrun? p.written = none) (reports : List Report) :
    (∃ room fault, sink.overrun? (p.wrote reports).written = some (room, fault) ∧
      p.writeReports sink reports =
        .error ({ p with written := (p.wrote reports).written.take room }.failed fault)) ∨
      (sink.overrun? (p.wrote reports).written = none ∧
        p.writeReports sink reports = .ok (p.wrote reports)) := by
  induction reports generalizing p with
  | nil =>
    rw [wrote_nil]
    exact .inr ⟨hp, rfl⟩
  | cons r rest ih =>
    unfold writeReports at ih ⊢
    rw [List.foldlM_cons, wrote_cons]
    unfold writeReport
    cases hone : sink.overrun? (p.wroteReport r).written with
    | some overrun =>
      -- the report that does not fit decides, whatever would follow it
      rcases overrun with ⟨room, fault⟩
      rcases Sink.overrun?_append hone (renderReports rest) with ⟨hover, htake⟩
      have hwritten : ((p.wroteReport r).wrote rest).written =
          (p.wroteReport r).written ++ renderReports rest := rfl
      refine .inl ⟨room, fault, hwritten ▸ hover, ?_⟩
      rw [hwritten, htake]
      rfl
    | none => exact ih hone

end Progress

/-! ## Whole runs -/

/-- What is seen of a run beside its log: what it returns, what it has written, and how often it has
flushed the sink. -/
def Outcome.seen (outcome : Outcome) : Except IoFault Summary × Bytes × Nat :=
  (outcome.result, outcome.written, outcome.flushes)

/-- What a run comes to that would come as far as `p` if nothing failed: a fault of the sink ends it
first, then one of the source, and then one of the flush. -/
def Progress.settle (sink : Sink) (readFault : Option IoFault) (p : Progress) :
    Except IoFault Summary × Bytes × Nat :=
  match sink.overrun? p.written with
  | some (room, fault) => (.error fault, p.written.take room, 0)
  | none =>
    match readFault, sink.flushFault with
    | some fault, _ => (.error fault, p.written, 0)
    | none, some fault => (.error fault, p.written, 1)
    | none, none => (.ok p.summary, p.written, 1)

/-- Once the sink is too full, the run has come to its end, whatever would be written then. -/
theorem Progress.settle_of_overrun {readFault : Option IoFault} {room : Nat} {fault : IoFault}
    {q : Progress} (hp : sink.overrun? p.written = some (room, fault))
    (hq : ∃ more, q.written = p.written ++ more) :
    q.settle sink readFault = (.error fault, p.written.take room, 0) := by
  rcases hq with ⟨more, hmore⟩
  rcases Sink.overrun?_append hp more with ⟨hover, htake⟩
  unfold settle
  rw [hmore, hover]
  show (_, _, _) = (_, _, _)
  rw [htake]

/-- The reports of the lines given, and then those of the end of the input, unless reading fails
before. -/
def Search.reportsFrom (matcher : Matcher) (options : Options) (s : Search) (lines : List Bytes)
    (readFault : Option IoFault) : List Report :=
  let (steps, final) := s.feedLines matcher options lines
  steps.flatMap Step.reports ++ if readFault.isNone then final.finish.reports else []

theorem runFrom_eq (source : Source) (s : Search) (p : Progress) :
    runFrom matcher options sink source s p =
      match Source.readLine source.fault source.text with
      | .error fault => p.failed fault
      | .ok (line, rest) =>
        if line.getLast? = some lineBreak then
          let step := s.feedLine matcher options line
          match (p.lineRead step.events).writeReports sink step.reports with
          | .error outcome => outcome
          | .ok p => runFrom matcher options sink rest step.search p
        else p.finish sink s.finish line := by
  rw [runFrom]
  split
  · rename_i hread
    rw [hread]
  · rename_i hread
    exact hread ▸ rfl

/-- Ending the input writes the reports that are left, and flushes if there is room for them. -/
theorem Progress.seen_finish (hp : sink.overrun? p.written = none) (ending : Ending)
    (fragment : Bytes) :
    (p.finish sink ending fragment).seen = (p.wrote ending.reports).settle sink none := by
  let dropped := if fragment.isEmpty then [] else [Event.fragmentDropped fragment.length]
  let logged := { p with events := p.events ++ (dropped ++ ending.events) }
  have hlogged : (logged.wrote ending.reports).written = (p.wrote ending.reports).written := rfl
  unfold finish settle
  rcases writeReports_cases (p := logged) hp ending.reports with
    ⟨room, fault, hover, hwrites⟩ | ⟨hfits, hwrites⟩
  · rw [hlogged] at hover
    simp only [logged, dropped] at hwrites
    simp only [hwrites, hover]
    rfl
  · rw [hlogged] at hfits
    simp only [logged, dropped] at hwrites
    simp only [hwrites, hfits]
    cases sink.flushFault <;> rfl

/-- What is seen of a run does not depend on its log. -/
theorem Progress.settle_congr {q : Progress} {readFault : Option IoFault}
    (hsummary : q.summary = p.summary) (hwritten : q.written = p.written) :
    q.settle sink readFault = p.settle sink readFault := by
  unfold settle
  rw [hsummary, hwritten]

theorem Search.reportsFrom_cons (s : Search) (line : Bytes) (lines : List Bytes)
    (readFault : Option IoFault) :
    s.reportsFrom matcher options (line :: lines) readFault =
      (s.feedLine matcher options line).reports ++
        (s.feedLine matcher options line).search.reportsFrom matcher options lines readFault := by
  simp [reportsFrom, feedLines]

/-- From any point on, a run comes to what the lines that are left give, and what fails on the
way. -/
theorem runFrom_settles {source : Source} {lines : List Bytes} {fragment : Bytes}
    (hlines : splitLines source.delivered = (lines, fragment)) (s : Search)
    (hp : sink.overrun? p.written = none) :
    (runFrom matcher options sink source s p).seen =
      ({ p with summary.lines := p.summary.lines + lines.length }.wrote
        (s.reportsFrom matcher options lines
          ((IoFault.lasting source.fault).map Prod.snd))).settle sink
            ((IoFault.lasting source.fault).map Prod.snd) := by
  induction lines generalizing source s p with
  | nil =>
    rw [runFrom_eq]
    rcases Source.readLine_of_nil hlines with ⟨fault, hfault, hread⟩ | ⟨hnone, hread⟩
    · -- the source fails inside a line or after the last one
      rw [hread, hfault]
      simp [Outcome.seen, Progress.failed, Progress.settle, Search.reportsFrom, Search.feedLines,
        hp]
    · have hlast := getLast?_fragment_ne hlines
      rw [hread, hnone]
      simp only [if_neg hlast, Progress.seen_finish hp]
      simp [Search.reportsFrom, Search.feedLines]
  | cons line lines ih =>
    rcases Source.readLine_of_cons hlines with ⟨hlast, rest, hread, hrest, hfault⟩
    let step := s.feedLine matcher options line
    let readFault := (IoFault.lasting source.fault).map Prod.snd
    let later := step.search.reportsFrom matcher options lines readFault
    have hreports : s.reportsFrom matcher options (line :: lines) readFault =
        step.reports ++ later := Search.reportsFrom_cons s line lines _
    rw [runFrom_eq, hread, hreports]
    simp only [if_pos hlast]
    rcases Progress.writeReports_cases (p := p.lineRead step.events) hp step.reports with
      ⟨room, fault, hover, hwrites⟩ | ⟨hfits, hwrites⟩
    · -- the sink is full before the next line is read
      simp only [step] at hwrites
      rw [hwrites]
      refine (Progress.settle_of_overrun hover ⟨renderReports later, ?_⟩).symm
      simp [Progress.wrote, Progress.lineRead, renderReports_append]
    · -- all is written, and the run goes on with the next line
      simp only [step] at hwrites
      rw [hwrites]
      have hnext := ih hrest step.search hfits
      rw [hfault] at hnext
      refine hnext.trans (Progress.settle_congr ?_ ?_)
      · simp [Progress.wrote, Progress.lineRead, later, readFault, Nat.add_assoc, Nat.add_comm 1]
      · simp [Progress.wrote, Progress.lineRead, later, readFault, renderReports_append]

/-- A whole run comes to what its reports and the faults say. -/
theorem seen_run (matcher : Matcher) (options : Options) (source : Source) (sink : Sink) :
    let lines := (splitLines source.delivered).1
    let readFault := (IoFault.lasting source.fault).map Prod.snd
    let whole : Progress := { summary.lines := 0 + lines.length }
    (run matcher options source sink).seen =
      (whole.wrote (Search.start.reportsFrom matcher options lines readFault)).settle sink
        readFault := by
  have hempty : sink.overrun? ({} : Progress).written = none := by
    unfold Sink.overrun?
    cases IoFault.lasting sink.limit <;> simp
  exact runFrom_settles rfl Search.start hempty

/-- A run that is interrupted comes to what it would have come to. -/
theorem seen_run_of_interruption {fault : IoFault} (h : fault.isInterruption = true) (n : Nat)
    (source : Source) (sink : Sink) :
    (run matcher options { source with fault := some (n, fault) } sink).seen =
        (run matcher options { source with fault := none } sink).seen ∧
      (run matcher options source { sink with limit := some (n, fault) }).seen =
        (run matcher options source { sink with limit := none }).seen := by
  constructor
  · rw [seen_run, seen_run]
    simp [Source.delivered, h]
  · rw [seen_run, seen_run]
    simp [Progress.settle, Sink.overrun?, h]

/-- What a run comes to under any faults. If its reports do not fit into the sink, the sink's fault
is returned, the sink has been filled up and never flushed. Else all reports have been written: a
fault of the source is returned without a flush; and without one the sink is flushed once, whose
fault is returned if it has any, and else the counts of lines, of reports and of those without an
end. An interruption of the source or of the sink changes nothing. -/
theorem run_under_faults (matcher : Matcher) (options : Options) (source : Source) (sink : Sink) :
    let lines := (splitLines source.delivered).1
    let readFault := IoFault.lasting source.fault
    let reports := Search.start.reportsFrom matcher options lines (readFault.map Prod.snd)
    let w := renderReports reports
    let outcome := run matcher options source sink
    match (IoFault.lasting sink.limit).filter (fun limit => limit.1 < w.length), readFault,
      sink.flushFault with
    | some (room, fault), _, _ =>
      outcome.result = .error fault ∧ outcome.written = w.take room ∧ outcome.flushes = 0
    | none, some (_, fault), _ =>
      outcome.result = .error fault ∧ outcome.written = w ∧ outcome.flushes = 0
    | none, none, some fault =>
      outcome.result = .error fault ∧ outcome.written = w ∧ outcome.flushes = 1
    | none, none, none =>
      outcome.result = .ok ⟨source.text.count lineBreak, reports.length,
        reports.countP Report.isUnterminated⟩ ∧ outcome.written = w ∧ outcome.flushes = 1 := by
  intro lines readFault reports w outcome
  let goal : Progress := { ({} : Progress) with summary.lines := 0 + lines.length }.wrote reports
  have hrun : outcome.seen = goal.settle sink (readFault.map Prod.snd) :=
    seen_run matcher options source sink
  have hwritten : goal.written = w := by simp [goal, Progress.wrote, w]
  unfold Progress.settle Sink.overrun? at hrun
  rw [hwritten] at hrun
  cases hover : (IoFault.lasting sink.limit).filter fun limit => limit.1 < w.length with
  | some overrun =>
    rw [hover] at hrun
    simpa [Outcome.seen] using hrun
  | none =>
    rw [hover] at hrun
    cases hread : readFault with
    | some limit =>
      rw [hread] at hrun
      simpa [Outcome.seen] using hrun
    | none =>
      rw [hread] at hrun
      cases hflush : sink.flushFault with
      | some fault =>
        rw [hflush] at hrun
        simpa [Outcome.seen] using hrun
      | none =>
        rw [hflush] at hrun
        -- all of the text has been read
        have hall : source.delivered = source.text := by
          unfold Source.delivered
          rw [show IoFault.lasting source.fault = none from hread]
        have hcount : lines.length = source.text.count lineBreak := by
          rw [← hall]
          exact length_splitLines source.delivered
        have hsummary : goal.summary = ⟨source.text.count lineBreak, reports.length,
            reports.countP Report.isUnterminated⟩ := by
          simp [goal, Progress.wrote, hcount]
        rw [hsummary] at hrun
        simpa [Outcome.seen] using hrun

end ScopeSearch
