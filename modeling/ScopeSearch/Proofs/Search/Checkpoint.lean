import ScopeSearch.Proofs.Forest.Later
import ScopeSearch.Proofs.Search.Retained

/-!
# ScopeSearch.Proofs.Search.Checkpoint — checkpoints cut the input into parts

After a line at which no scope is open a search holds nothing but the number of lines it has read.
What follows is searched as it would be alone, only further down (`LaterBy`):

* `Search.feedLines_of_depth_eq_zero` — the search stands as at the start, but for the number of
  lines;
* `LaterBy.feedLine`, `LaterBy.feedLines` — each line, and so any lines, give the same reports as
  they give further up;
* `checkpoint_cuts_input` — so the parts before and after a checkpoint do not affect each other.
-/

namespace ScopeSearch

variable {find : Bytes → Option Span} {matcher : Matcher} {options : Options} {s t : Search}
  {n : Nat}

/-! ## What is left at a checkpoint -/

namespace Search

theorem linesRead_feedLines (s : Search) (lines : List Bytes) :
    (s.feedLines matcher options lines).2.linesRead = s.linesRead + lines.length := by
  induction lines generalizing s with
  | nil => rfl
  | cons text rest ih =>
    have hread := (feedLine_cases matcher options s text).1
    have hrest := ih (s.feedLine matcher options text).search
    rw [hread, Nat.add_assoc, Nat.add_comm 1] at hrest
    exact hrest

/-- A search has read as many lines as it has been given. -/
theorem linesRead_feedLines_start (matcher : Matcher) (options : Options) (lines : List Bytes) :
    (start.feedLines matcher options lines).2.linesRead = lines.length := by
  rw [linesRead_feedLines]
  exact Nat.zero_add lines.length

/-- One more line takes the search a step further. -/
theorem feedLines_concat (matcher : Matcher) (options : Options) (s : Search)
    (before : List Bytes) (text : Bytes) :
    (s.feedLines matcher options (before ++ [text])).2 =
      ((s.feedLines matcher options before).2.feedLine matcher options text).search := by
  rw [feedLines_append]
  rfl

theorem length_feedLines (s : Search) (lines : List Bytes) :
    (s.feedLines matcher options lines).1.length = lines.length := by
  induction lines generalizing s with
  | nil => rfl
  | cons text rest ih => exact congrArg Nat.succ (ih (s.feedLine matcher options text).search)

/-- A line after which no scope is open leaves the search as at the start, but for the number of
lines. -/
theorem feedLine_of_depth_eq_zero (text : Bytes)
    (hdepth : (s.feedLine matcher options text).search.depth = 0) :
    (s.feedLine matcher options text).search = { start with linesRead := s.linesRead + 1 } := by
  rcases feedLine_cases matcher options s text with
    ⟨hread, ⟨hopen, -, hforest⟩ | ⟨-, -, hbuffer, hforest⟩⟩
  · -- a line that leaves a scope open has a depth
    have hstack : (s.feedLine matcher options text).search.forest.openStack = [] :=
      List.length_eq_zero_iff.1 hdepth
    rw [hforest] at hstack
    exact absurd hstack hopen
  · rcases hsearch : (s.feedLine matcher options text).search with ⟨forest, buffer, linesRead⟩
    rw [hsearch] at hread hforest hbuffer
    cases hread
    cases hforest
    cases hbuffer
    rfl

/-- A line after which some scope is open releases nothing and drops nothing. -/
theorem feedLine_of_depth_ne_zero (text : Bytes)
    (hdepth : (s.feedLine matcher options text).search.depth ≠ 0) :
    (s.feedLine matcher options text).reports = [] ∧
      (s.feedLine matcher options text).search.forest =
        s.forest.scanLine matcher options.scopes s.linesRead text := by
  rcases (feedLine_cases matcher options s text).2 with
    ⟨-, hreports, hforest⟩ | ⟨-, -, -, hforest⟩
  · exact ⟨hreports, hforest⟩
  · -- an empty forest has no open scope
    refine absurd ?_ hdepth
    unfold depth
    rw [hforest]
    rfl

/-- Lines after which no scope is open leave the search as at the start, but for their number. -/
theorem feedLines_of_depth_eq_zero (lines : List Bytes)
    (hdepth : (start.feedLines matcher options lines).2.depth = 0) :
    (start.feedLines matcher options lines).2 = { start with linesRead := lines.length } := by
  rcases List.eq_nil_or_concat lines with rfl | ⟨before, text, rfl⟩
  · rfl
  · -- the last line alone decides
    rw [List.concat_eq_append, feedLines_append] at hdepth ⊢
    have hlast := feedLine_of_depth_eq_zero text hdepth
    rw [linesRead_feedLines, start, Nat.zero_add] at hlast
    rw [List.length_append, List.length_singleton]
    exact hlast

end Search

/-! ## Further down -/

/-- A line further down is searched as it would be further up. -/
theorem Forest.scanLine_later (n count number : Nat) (f : Forest) (text : Bytes) :
    (f.relabel (.later n)).scanLine (.ofLine find) count (number + n) text =
      (f.scanLine (.ofLine find) count number text).relabel (.later n) := by
  let read := f.apply (Marker.onLine text number)
  have hread : (f.relabel (.later n)).apply (Marker.onLine text (number + n)) =
      read.relabel (.later n) := by
    rw [Marker.onLine_later]
    exact apply_relabel (.later n) f (Marker.onLine text number)
  unfold scanLine
  rw [hread]
  -- the matcher sees the same line, whatever the number of its question
  show (Search.markMatch count (number + n) text (read.relabel (.later n)) (find text)).1 =
    (Search.markMatch count number text read (find text)).1.relabel (.later n)
  cases find text with
  | none => rfl
  | some span =>
    simp only [Search.markMatch, innermostContaining?_later]
    cases read.innermostContaining? number span with
    | none => rfl
    | some id => exact mark_later n read count id

/-- The search `t` stands where `s` stands, only `n` lines further down. -/
structure LaterBy (n : Nat) (s t : Search) : Prop where
  linesRead_eq : t.linesRead = s.linesRead + n
  forest_eq : t.forest = s.forest.relabel (.later n)

namespace LaterBy

/-- A line gives the same reports further down. -/
theorem feedLine (h : LaterBy n s t) (find : Bytes → Option Span) (options : Options)
    (text : Bytes) :
    let upper := s.feedLine (.ofLine find) options text
    let lower := t.feedLine (.ofLine find) options text
    LaterBy n upper.search lower.search ∧
      lower.reports = upper.reports.map (Report.later n) := by
  intro upper lower
  let f := s.forest.scanLine (.ofLine find) options.scopes s.linesRead text
  have hmarked : t.forest.scanLine (.ofLine find) options.scopes t.linesRead text =
      f.relabel (.later n) := by
    rw [h.forest_eq, h.linesRead_eq]
    exact Forest.scanLine_later n options.scopes s.linesRead s.forest text
  have hread : lower.search.linesRead = upper.search.linesRead + n := by
    rw [(Search.feedLine_cases (.ofLine find) options t text).1,
      (Search.feedLine_cases (.ofLine find) options s text).1, h.linesRead_eq]
    omega
  -- the same scopes are open in both, so both have a checkpoint here or neither has
  rcases Search.feedLine_together rfl hmarked (Forest.openStack_relabel _ f) with
    ⟨hreports, hreports', hheld, hheld'⟩ | ⟨-, hreports, hreports', hheld, hheld'⟩
  · refine ⟨⟨hread, ?_⟩, ?_⟩
    · rw [hheld, hheld']
    · rw [hreports, hreports', List.map_nil]
  · refine ⟨⟨hread, ?_⟩, ?_⟩
    · rw [hheld, hheld', Forest.relabel_empty]
    · rw [hreports, hreports', Forest.consolidate_later, Forest.reports_later]

/-- Any lines give the same reports further down, one by one. -/
theorem feedLines (h : LaterBy n s t) (find : Bytes → Option Span) (options : Options)
    (lines : List Bytes) :
    let (upper, upperEnd) := s.feedLines (.ofLine find) options lines
    let (lower, lowerEnd) := t.feedLines (.ofLine find) options lines
    lower.map Step.reports = upper.map (fun step => step.reports.map (Report.later n)) ∧
      LaterBy n upperEnd lowerEnd := by
  induction lines generalizing s t with
  | nil => exact ⟨rfl, h⟩
  | cons text rest ih =>
    rcases h.feedLine find options text with ⟨hnext, hreports⟩
    rcases ih hnext with ⟨hsteps, hend⟩
    exact ⟨List.cons_eq_cons.2 ⟨hreports, hsteps⟩, hend⟩

theorem finish (h : LaterBy n s t) :
    t.finish.reports = s.finish.reports.map (Report.later n) := by
  have hclosed : t.forest.reports t.forest.consolidate =
      (s.forest.reports s.forest.consolidate).map (Report.later n) := by
    rw [h.forest_eq, Forest.consolidate_later, Forest.reports_later]
  have hopen : t.forest.openReports = s.forest.openReports.map (Report.later n) := by
    rw [h.forest_eq, Forest.openReports_later]
  show t.forest.reports t.forest.consolidate ++ t.forest.openReports =
    (s.forest.reports s.forest.consolidate ++ s.forest.openReports).map (Report.later n)
  rw [hclosed, hopen, List.map_append]

end LaterBy

theorem laterBy_start (n : Nat) : LaterBy n Search.start { Search.start with linesRead := n } where
  linesRead_eq := (Nat.zero_add n).symm
  forest_eq := (Forest.relabel_empty (.later n)).symm

/-- A report of a range further down starts below the lines that have been put before. -/
theorem Report.le_line_of_mem_later {r : Report} {reports : List Report}
    (hr : r ∈ reports.map (Report.later n)) : n ≤ r.start.line := by
  rcases List.mem_map.1 hr with ⟨upper, -, rfl⟩
  exact Nat.le_add_left n upper.start.line

/-! ## Before and after a checkpoint -/

/-- Checkpoints cut the input into parts that do not affect each other. Where no scope is open after
some lines, the search stands as at the start, but for the number of lines, and has nothing left to
report. What follows gives the reports, line by line and at the end of the input, that it gives
alone, only further down; so none of them starts before the line after the checkpoint. -/
theorem checkpoint_cuts_input (find : Bytes → Option Span) (options : Options)
    (before after : List Bytes)
    (hdepth : (Search.start.feedLines (.ofLine find) options before).2.depth = 0) :
    let middle := (Search.start.feedLines (.ofLine find) options before).2
    let (lower, lowerEnd) := middle.feedLines (.ofLine find) options after
    let (alone, aloneEnd) := Search.start.feedLines (.ofLine find) options after
    let whole := (Search.start.feedLines (.ofLine find) options (before ++ after)).1
    middle = { Search.start with linesRead := before.length } ∧ middle.finish.reports = [] ∧
      lower.map Step.reports = alone.map (fun step => step.reports.map (.later before.length)) ∧
      lowerEnd.finish.reports = aloneEnd.finish.reports.map (.later before.length) ∧
      ∀ step ∈ whole.drop before.length, ∀ r ∈ step.reports, before.length ≤ r.start.line := by
  intro middle
  have hmiddle : middle = { Search.start with linesRead := before.length } :=
    Search.feedLines_of_depth_eq_zero before hdepth
  have hstart : LaterBy before.length Search.start middle := by
    rw [hmiddle]
    exact laterBy_start before.length
  rcases hstart.feedLines find options after with ⟨hsteps, hend⟩
  refine ⟨hmiddle, ?_, hsteps, hend.finish, ?_⟩
  · rw [hmiddle]
    rfl
  · intro step hstep r hr
    -- the steps after the checkpoint are those of the lines that follow it
    rw [Search.feedLines_append, List.drop_left' (Search.length_feedLines _ before)] at hstep
    have hmem : step.reports ∈ (middle.feedLines (.ofLine find) options after).1.map Step.reports :=
      List.mem_map_of_mem hstep
    rw [hsteps] at hmem
    rcases List.mem_map.1 hmem with ⟨upper, -, heq⟩
    rw [← heq] at hr
    exact Report.le_line_of_mem_later hr

/-- After the lines `(x` and `)` no scope is open, and the line `[x]` after them gives the report
that it gives alone, only two lines further down. -/
theorem checkpoint_cuts_input_two_lines :
    let matcher := Matcher.literal [0x78]
    let before : List Bytes := [[0x28, 0x78], [0x29]]
    let middle := (Search.start.feedLines matcher {} before).2
    middle.depth = 0 ∧ middle = { Search.start with linesRead := 2 } ∧
      (middle.feedLines matcher {} [[0x5B, 0x78, 0x5D]]).1.map Step.reports =
        [[⟨⟨2, 0⟩, some ⟨2, 2⟩⟩]] := by
  have hdepth :
      (Search.start.feedLines (Matcher.literal [0x78]) {} [[0x28, 0x78], [0x29]]).2.depth = 0 := by
    decide
  rcases checkpoint_cuts_input _ {} [[0x28, 0x78], [0x29]] [[0x5B, 0x78, 0x5D]] hdepth with
    ⟨hmiddle, -, hsteps, -⟩
  refine ⟨hdepth, hmiddle, hsteps.trans ?_⟩
  decide

end ScopeSearch
