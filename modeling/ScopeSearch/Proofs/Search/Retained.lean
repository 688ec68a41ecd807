import ScopeSearch.Proofs.Forest.Beside
import ScopeSearch.Proofs.Forest.Tightest
import ScopeSearch.Search

/-!
# ScopeSearch.Proofs.Search.Retained — a search that never lets go

At every checkpoint a search reports the marked scopes and drops all it holds. `Forest.scan` reads
and marks the same lines and keeps everything. What the search has dropped is a forest `base` that
lies beside the one it holds (`Dropped`):

* `Search.feedLine_cases` — a line leaves all held or, when no scope is open after it, nothing;
* `Dropped.feedLine`, `Dropped.feedLines` — each line takes both a step further, and the reports of
  the lines are those of what has been dropped;
* `reports_eq_scan` — all reports of a search are those of the forest that has kept everything.
-/

namespace ScopeSearch

variable {matcher : Matcher} {options : Options} {f base : Forest} {s : Search}
  {scopes number : Nat}

/-! ## Keeping everything -/

/-- The forest after one more line: its delimiters are read and the scopes for its match are
marked. -/
def Forest.scanLine (matcher : Matcher) (scopes number : Nat) (f : Forest) (text : Bytes) :
    Forest :=
  (Search.markMatch scopes number text (f.apply (Marker.onLine text number))
    (matcher number text)).1

/-- The forest after more lines, the first of which has the given number. -/
def Forest.scan (matcher : Matcher) (scopes : Nat) : Nat → Forest → List Bytes → Forest
  | _, f, [] => f
  | number, f, text :: rest =>
    Forest.scan matcher scopes (number + 1) (f.scanLine matcher scopes number text) rest

/-- A match marks the way up from the tightest scope around it; without a match, or without a scope
around it, nothing is marked. -/
theorem markMatch_cases (scopes number : Nat) (text : Bytes) (f : Forest) (found : Option Span) :
    (∃ span id, found = some span ∧ f.innermostContaining? number span = some id ∧
      (Search.markMatch scopes number text f found).1 = (f.mark scopes id).1) ∨
      ((∀ span, found = some span → f.innermostContaining? number span = none) ∧
        (Search.markMatch scopes number text f found).1 = f) := by
  cases found with
  | none =>
    refine .inr ⟨fun span h => ?_, rfl⟩
    cases h
  | some span =>
    cases hid : f.innermostContaining? number span with
    | none =>
      refine .inr ⟨fun span' h => ?_, by simp [Search.markMatch, hid]⟩
      cases h
      exact hid
    | some id => exact .inl ⟨span, id, rfl, hid, by simp [Search.markMatch, hid]⟩

namespace Forest

theorem unmarked_scanLine (matcher : Matcher) (scopes number : Nat) (f : Forest) (text : Bytes) :
    (f.scanLine matcher scopes number text).unmarked =
      (f.apply (Marker.onLine text number)).unmarked := by
  unfold scanLine
  rcases markMatch_cases scopes number text (f.apply (Marker.onLine text number))
    (matcher number text) with ⟨span, id, -, -, hmark⟩ | ⟨-, hsame⟩
  · rw [hmark, unmarked_mark]
  · rw [hsame]

theorem ReadInOrder.scanLine (hf : ReadInOrder number f) (matcher : Matcher) (scopes : Nat)
    (text : Bytes) : ReadInOrder (number + 1) (f.scanLine matcher scopes number text) := by
  have hline := hf.line text number (Nat.le_refl number)
  unfold Forest.scanLine
  rcases markMatch_cases scopes number text (f.apply (Marker.onLine text number))
    (matcher number text) with ⟨span, id, -, -, hmark⟩ | ⟨-, hsame⟩
  · rw [hmark]
    exact hline.marking scopes id
  · rw [hsame]
    exact hline

theorem ReadInOrder.scan (hf : ReadInOrder number f) (matcher : Matcher) (scopes : Nat)
    (lines : List Bytes) :
    ReadInOrder (number + lines.length) (f.scan matcher scopes number lines) := by
  induction lines generalizing number f with
  | nil => exact hf
  | cons text rest ih =>
    have hrest := ih (hf.scanLine matcher scopes text)
    rw [List.length_cons, Nat.add_comm rest.length, ← Nat.add_assoc]
    exact hrest

theorem ReadInOrder.wellFormed (hf : ReadInOrder number f) : f.WellFormed :=
  hf.laminar.1

/-- A scope of the past contains nothing on the lines to come. -/
theorem ReadInOrder.contains_eq_false (hf : ReadInOrder number f) {id : Nat} {span : Span}
    (hid : id ∈ f.closed.toList) : f.contains number span id = false := by
  rcases hf.laminar with ⟨hwf, -, hbefore⟩
  rcases hwf.closed_partner hid with ⟨s, c, hs, hc, -⟩
  have hlt := (hbefore hs).2 c hc
  by_contra h
  rcases (contains_iff number span id).1 (by simpa using h) with ⟨s', hs', -, hstop⟩
  rw [hs] at hs'
  cases hs'
  have hle := hstop c hc
  simp only [Position.lt_def, Position.le_def] at hlt hle
  omega

end Forest

/-! ## What a search drops -/

/-- A line is read and marked. Then it is a checkpoint, or all is held. -/
theorem Search.feedLine_eq (matcher : Matcher) (options : Options) (s : Search) (text : Bytes) :
    let markers := Marker.onLine text s.linesRead
    let read := s.forest.apply markers
    let after : Search :=
      { forest := s.forest.scanLine matcher options.scopes s.linesRead text
        buffer := if read.depth = 0 then s.buffer else s.buffer.push ⟨s.linesRead, text⟩
        linesRead := s.linesRead + 1 }
    let events := (s.forest.strays markers).map .strayCloser ++
      (markMatch options.scopes s.linesRead text read (matcher s.linesRead text)).2
    s.feedLine matcher options text =
      if after.depth = 0 then
        { after.checkpoint with events := events ++ after.checkpoint.events }
      else ⟨after, [], events⟩ := rfl

/-- What a line comes to: the scopes held are read and marked, and when none is open afterwards, the
waiting ones are reported and everything is dropped. -/
theorem Search.feedLine_cases (matcher : Matcher) (options : Options) (s : Search) (text : Bytes) :
    let marked := s.forest.scanLine matcher options.scopes s.linesRead text
    let step := s.feedLine matcher options text
    step.search.linesRead = s.linesRead + 1 ∧
      (marked.openStack ≠ [] ∧ step.reports = [] ∧ step.search.forest = marked ∨
        marked.openStack = [] ∧ step.reports = marked.reports marked.consolidate ∧
          step.search.buffer = #[] ∧ step.search.forest = Forest.empty) := by
  intro marked step
  have hstep := Search.feedLine_eq matcher options s text
  by_cases hopen : marked.depth = 0
  · have hstack : marked.openStack = [] := List.length_eq_zero_iff.1 hopen
    have hdropped : marked.flushClosed.2.release = Forest.empty := by
      rw [Forest.release_eq, if_pos ⟨hstack, rfl⟩]
    have hcheckpoint : step = _ := hstep.trans (if_pos hopen)
    rw [hcheckpoint]
    exact ⟨rfl, .inr ⟨hstack, rfl, rfl, hdropped⟩⟩
  · have hstack : marked.openStack ≠ [] := fun h => hopen (by simp [Forest.depth, h])
    have hheld : step = _ := hstep.trans (if_neg hopen)
    rw [hheld]
    exact ⟨rfl, .inl ⟨hstack, rfl, rfl⟩⟩

/-- Two searches that have the same scopes open after a line do the same with what they hold: both
keep it, or both report it and drop it. -/
theorem Search.feedLine_together {matcher' : Matcher} {options' : Options} {s t : Search}
    {f g : Forest} {text : Bytes}
    (hf : s.forest.scanLine matcher options.scopes s.linesRead text = f)
    (hg : t.forest.scanLine matcher' options'.scopes t.linesRead text = g)
    (hstack : g.openStack = f.openStack) :
    let first := s.feedLine matcher options text
    let second := t.feedLine matcher' options' text
    first.reports = [] ∧ second.reports = [] ∧
        first.search.forest = f ∧ second.search.forest = g ∨
      f.openStack = [] ∧ first.reports = f.reports f.consolidate ∧
        second.reports = g.reports g.consolidate ∧
        first.search.forest = Forest.empty ∧ second.search.forest = Forest.empty := by
  intro first second
  have hfirst := (Search.feedLine_cases matcher options s text).2
  have hsecond := (Search.feedLine_cases matcher' options' t text).2
  simp only [hf] at hfirst
  simp only [hg, hstack] at hsecond
  rcases hfirst with ⟨hopen, hreports, hheld⟩ | ⟨hclosed, hreports, -, hheld⟩
  · rcases hsecond with ⟨-, hreports', hheld'⟩ | ⟨hclosed, -⟩
    · exact .inl ⟨hreports, hreports', hheld, hheld'⟩
    · exact absurd hclosed hopen
  · rcases hsecond with ⟨hopen, -⟩ | ⟨-, hreports', -, hheld'⟩
    · exact absurd hclosed hopen
    · exact .inr ⟨hclosed, hreports, hreports', hheld, hheld'⟩

/-- The search has dropped the scopes of `base`, and what it holds has been read after them. -/
structure Dropped (base : Forest) (s : Search) : Prop where
  dropped : base.WellFormed
  held : s.forest.WellFormed
  together : (base.beside s.forest).ReadInOrder s.linesRead

theorem dropped_start : Dropped Forest.empty Search.start where
  dropped := Forest.wellFormed_empty
  held := Forest.wellFormed_empty
  together := by
    have hempty : Forest.empty.beside Search.start.forest = Forest.empty := Forest.beside_empty rfl
    rw [hempty]
    exact .nothing

namespace Dropped

/-- A line has the same tightest scope for its match whether or not anything has been dropped. -/
theorem innermostContaining?_eq (h : Dropped base s) (text : Bytes) (span : Span) :
    ((base.beside s.forest).apply (Marker.onLine text s.linesRead)).innermostContaining?
        s.linesRead span =
      ((s.forest.apply (Marker.onLine text s.linesRead)).innermostContaining? s.linesRead span).map
        (· + base.size) := by
  rw [Forest.apply_beside]
  refine Forest.innermostContaining?_beside h.dropped fun id hid => ?_
  have hpast : (base.beside s.forest).contains s.linesRead span id = false :=
    h.together.contains_eq_false (by simp [hid])
  rw [← hpast, Forest.contains_beside_left _ _ (h.dropped.lt_size_of_mem_closed hid)]

theorem scanLine_eq (h : Dropped base s) (matcher : Matcher) (scopes : Nat) (text : Bytes) :
    (base.beside s.forest).scanLine matcher scopes s.linesRead text =
      base.beside (s.forest.scanLine matcher scopes s.linesRead text) := by
  let held := s.forest.apply (Marker.onLine text s.linesRead)
  let whole := (base.beside s.forest).apply (Marker.onLine text s.linesRead)
  have hwhole : whole = base.beside held := Forest.apply_beside base s.forest _
  have hfind : ∀ span, whole.innermostContaining? s.linesRead span =
      (held.innermostContaining? s.linesRead span).map (· + base.size) :=
    h.innermostContaining?_eq text
  show (Search.markMatch scopes s.linesRead text whole (matcher s.linesRead text)).1 =
    base.beside (Search.markMatch scopes s.linesRead text held (matcher s.linesRead text)).1
  rcases markMatch_cases scopes s.linesRead text held (matcher s.linesRead text) with
    ⟨span, id, hfound, hid, hmark⟩ | ⟨hnone, hsame⟩
  · rw [hmark, hfound, ← Forest.mark_beside, ← hwhole]
    simp [Search.markMatch, hfind, hid]
  · rw [hsame, ← hwhole]
    cases hfound : matcher s.linesRead text with
    | none => rfl
    | some span => simp [Search.markMatch, hfind, hnone span hfound]

/-- Each line takes the search and the forest that keeps everything a step further. What is reported
is dropped in the same step. -/
theorem feedLine (h : Dropped base s) (matcher : Matcher) (options : Options) (text : Bytes) :
    let step := s.feedLine matcher options text
    ∃ base', Dropped base' step.search ∧
      base'.beside step.search.forest =
        (base.beside s.forest).scanLine matcher options.scopes s.linesRead text ∧
      base'.reports base'.consolidate = base.reports base.consolidate ++ step.reports := by
  intro step
  let marked := s.forest.scanLine matcher options.scopes s.linesRead text
  have hwhole := h.scanLine_eq matcher options.scopes text
  have htogether := h.together.scanLine matcher options.scopes text
  rw [hwhole] at htogether ⊢
  have hmarked : marked.WellFormed :=
    (h.held.apply _).of_unmarked_eq (Forest.unmarked_scanLine matcher _ _ s.forest text)
  rcases Search.feedLine_cases matcher options s text with
    ⟨hread, ⟨hopen, hreports, hforest⟩ | ⟨hopen, hreports, -, hforest⟩⟩
  · refine ⟨base, ⟨h.dropped, ?_, ?_⟩, ?_, ?_⟩
    · rw [hforest]
      exact hmarked
    · rw [hforest, hread]
      exact htogether
    · rw [hforest]
    · rw [hreports, List.append_nil]
  · have hempty : (base.beside marked).beside Forest.empty = base.beside marked :=
      Forest.beside_empty (by rw [Forest.openStack_beside, hopen, List.map_nil])
    refine ⟨base.beside marked, ⟨htogether.wellFormed, ?_, ?_⟩, ?_, ?_⟩
    · -- what was held has joined what has been dropped
      rw [hforest]
      exact Forest.wellFormed_empty
    · rw [hforest, hread, hempty]
      exact htogether
    · rw [hforest, hempty]
    · rw [hreports, Forest.reports_consolidate_beside h.dropped hmarked]

theorem feedLines (h : Dropped base s) (matcher : Matcher) (options : Options)
    (lines : List Bytes) :
    let (steps, final) := s.feedLines matcher options lines
    ∃ base', Dropped base' final ∧
      final.linesRead = s.linesRead + lines.length ∧
      base'.beside final.forest =
        (base.beside s.forest).scan matcher options.scopes s.linesRead lines ∧
      base'.reports base'.consolidate =
        base.reports base.consolidate ++ steps.flatMap Step.reports := by
  induction lines generalizing base s with
  | nil => exact ⟨base, h, rfl, rfl, by simp⟩
  | cons text rest ih =>
    -- the other lines go on from what has been dropped after the first
    let step := s.feedLine matcher options text
    have hread : step.search.linesRead = s.linesRead + 1 :=
      (Search.feedLine_cases matcher options s text).1
    rcases h.feedLine matcher options text with ⟨base₁, h₁, hforest₁, hreports₁⟩
    rcases ih h₁ with ⟨base₂, h₂, hread₂, hforest₂, hreports₂⟩
    rw [hforest₁, hread] at hforest₂
    refine ⟨base₂, h₂, ?_, hforest₂, ?_⟩
    · rw [hread₂, hread, List.length_cons, Nat.add_assoc, Nat.add_comm 1]
    · rw [hreports₂, hreports₁, List.append_assoc]
      rfl

end Dropped

/-- All reports of a search are those of the forest that has kept everything: those of the waiting
scopes, and then those of the open ones. -/
theorem reports_eq_scan (matcher : Matcher) (options : Options) (lines : List Bytes) :
    let (steps, final) := Search.start.feedLines matcher options lines
    let kept := Forest.empty.scan matcher options.scopes 0 lines
    steps.flatMap Step.reports ++ final.finish.reports =
      kept.reports kept.consolidate ++ kept.openReports := by
  let steps := (Search.start.feedLines matcher options lines).1
  let final := (Search.start.feedLines matcher options lines).2
  show steps.flatMap Step.reports ++ final.finish.reports = _
  rcases dropped_start.feedLines matcher options lines with ⟨base, h, -, hforest, hreports⟩
  have hstart : Forest.empty.beside Search.start.forest = Forest.empty := Forest.beside_empty rfl
  have hnothing : Forest.empty.reports Forest.empty.consolidate = [] := rfl
  have hending : final.finish.reports =
      final.forest.reports final.forest.consolidate ++ final.forest.openReports := rfl
  rw [hstart] at hforest
  rw [hnothing, List.nil_append] at hreports
  have hkept : Forest.empty.scan matcher options.scopes 0 lines = base.beside final.forest :=
    hforest.symm
  rw [hkept, Forest.reports_consolidate_beside h.dropped h.held, Forest.openReports_beside,
    hreports, hending, List.append_assoc]

end ScopeSearch
