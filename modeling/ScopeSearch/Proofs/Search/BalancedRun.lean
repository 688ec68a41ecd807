import Mathlib.Data.Nat.Find
import ScopeSearch.Proofs.Forest.Outermost
import ScopeSearch.Proofs.Search.Checkpoint
import ScopeSearch.Proofs.Search.Coverage
import ScopeSearch.Proofs.Search.Innermost

/-!
# ScopeSearch.Proofs.Search.BalancedRun — the reports of one checkpoint

A balanced run are the lines after one checkpoint, up to and including the next. What a search holds
within a run are the scopes of the run alone, so the reports of a checkpoint are a matter of the run
that it ends:

* `forest_feedLines` — what a search holds are the scopes of the lines since the last checkpoint;
* `isMarkedFrom_eq_holdsMatchFrom` — with enough scopes to mark, a scope is marked just if it
  contains a match;
* `nestedAtMost_run` — a run is nested no deeper than the whole input;
* `reports_nest_across_unmarked` — so reports of one checkpoint nest only across an unmarked scope,
  and not at all if there are enough scopes to mark: they are the outermost ranges of the run around
  a match, one after the other.
-/

namespace ScopeSearch

variable {matcher : Matcher} {options : Options} {f g base : Forest} {a id number scopes : Nat}
  {lines before after : List Bytes} {text : Bytes}

/-- No more than `n` scopes stand inside one another. -/
def Forest.NestedAtMost (n : Nat) (f : Forest) : Prop :=
  ∀ id : Nat, id < f.size → (f.lineage id).length ≤ n

instance (n : Nat) (f : Forest) : Decidable (f.NestedAtMost n) :=
  inferInstanceAs (Decidable (∀ id : Nat, id < f.size → (f.lineage id).length ≤ n))

namespace Offline

/-! ## Runs -/

/-- The number of lines up to and including the last one after which no scope is open. -/
def runStart (lines : List Bytes) : Nat :=
  Nat.findGreatest (fun n => (forest (lines.take n)).depth = 0) lines.length

/-- The forest of lines, the first of which has the given number. -/
def forestFrom (number : Nat) (lines : List Bytes) : Forest :=
  Forest.empty.apply (markersFrom number lines)

/-- The scope contains the match on one of the lines. -/
def holdsMatchFrom (matcher : Matcher) (f : Forest) (number : Nat) (lines : List Bytes)
    (id : ScopeId) : Bool :=
  (lines.zipIdx number).any fun (text, number) =>
    (matcher number text).any fun span => f.contains number span id

/-- What the line after some others is to release, with enough scopes to mark: if it ends a run, the
scopes of this run that stand in no other one and contain the match on one of its lines, in the
order they open. -/
def balancedReports (matcher : Matcher) (before : List Bytes) (text : Bytes) : List Report :=
  let start := runStart before
  let run := before.drop start ++ [text]
  let f := forestFrom start run
  if f.depth = 0 then
    f.reports ((List.range f.size).filter fun id =>
      (f.parent? id).isNone && holdsMatchFrom matcher f start run id)
  else []

theorem runStart_le (lines : List Bytes) : runStart lines ≤ lines.length :=
  Nat.findGreatest_le lines.length

/-- No scope is open where a run starts. -/
theorem depth_take_runStart (lines : List Bytes) :
    (forest (lines.take (runStart lines))).depth = 0 :=
  Nat.findGreatest_spec (P := fun n => (forest (lines.take n)).depth = 0)
    (Nat.zero_le lines.length) rfl

/-- Some scope is open after every line of a run that has not ended. -/
theorem depth_take_ne_zero {n : Nat} (hstart : runStart lines < n) (hn : n ≤ lines.length) :
    (forest (lines.take n)).depth ≠ 0 :=
  Nat.findGreatest_is_greatest (P := fun n => (forest (lines.take n)).depth = 0) hstart hn

/-- A line that leaves no scope open ends a run. -/
theorem runStart_concat_of_closed (hclosed : (forest (before ++ [text])).depth = 0) :
    runStart (before ++ [text]) = (before ++ [text]).length := by
  refine Nat.findGreatest_eq ?_
  rw [List.take_length]
  exact hclosed

/-- A line that leaves a scope open goes on with the run. -/
theorem runStart_concat_of_open (hopen : (forest (before ++ [text])).depth ≠ 0) :
    runStart (before ++ [text]) = runStart before := by
  have hsame : ∀ n ≤ before.length, (before ++ [text]).take n = before.take n :=
    fun n hn => List.take_append_of_le_length hn
  rcases Nat.findGreatest_eq_iff.1 (rfl : runStart before = runStart before) with
    ⟨hle, hspec, hgreatest⟩
  refine Nat.findGreatest_eq_iff.2 ⟨?_, ?_, ?_⟩
  · rw [List.length_append]
    omega
  · intro hpos
    rw [hsame _ hle]
    exact hspec hpos
  · intro n hn hlength
    rw [List.length_append, List.length_singleton] at hlength
    rcases Nat.lt_or_eq_of_le hlength with hlt | heq
    · rw [hsame n (Nat.le_of_lt_succ hlt)]
      exact hgreatest hn (Nat.le_of_lt_succ hlt)
    · have hall : (before ++ [text]).take n = before ++ [text] :=
        List.take_of_length_le (by simp [heq])
      rw [hall]
      exact hopen

end Offline

/-! ## What a search holds -/

theorem Forest.scan_concat (matcher : Matcher) (scopes number : Nat) (f : Forest)
    (lines : List Bytes) (text : Bytes) :
    f.scan matcher scopes number (lines ++ [text]) =
      (f.scan matcher scopes number lines).scanLine matcher scopes (number + lines.length) text := by
  induction lines generalizing number f with
  | nil => rfl
  | cons first rest ih =>
    rw [List.cons_append, scan, ih, List.length_cons, Nat.add_assoc, Nat.add_comm 1]
    rfl

theorem Offline.length_run (before : List Bytes) :
    Offline.runStart before + (before.drop (Offline.runStart before)).length = before.length := by
  have hle := Offline.runStart_le before
  rw [List.length_drop]
  omega

/-- What a search holds are the scopes of the lines since the last checkpoint. -/
theorem forest_feedLines (matcher : Matcher) (options : Options) (lines : List Bytes) :
    (Search.start.feedLines matcher options lines).2.forest =
      Forest.empty.scan matcher options.scopes (Offline.runStart lines)
        (lines.drop (Offline.runStart lines)) := by
  induction lines using List.reverseRecOn with
  | nil => rfl
  | append_singleton before text ih =>
    by_cases hdepth : (Offline.forest (before ++ [text])).depth = 0
    · -- the search has dropped everything, and a run starts after the line
      have hfinal := Search.feedLines_of_depth_eq_zero (before ++ [text])
        ((Search.depth_feedLines matcher options (before ++ [text])).trans hdepth)
      rw [hfinal, Offline.runStart_concat_of_closed hdepth, List.drop_length]
      rfl
    · let s := (Search.start.feedLines matcher options before).2
      have hfinal : (Search.start.feedLines matcher options (before ++ [text])).2 =
          (s.feedLine matcher options text).search :=
        Search.feedLines_concat matcher options Search.start before text
      have hread : s.linesRead = before.length :=
        Search.linesRead_feedLines_start matcher options before
      have hopen := Search.depth_feedLines matcher options (before ++ [text])
      rw [hfinal] at hopen
      rw [hfinal, Offline.runStart_concat_of_open hdepth,
        List.drop_append_of_le_length (Offline.runStart_le before), Forest.scan_concat,
        Offline.length_run, ← ih, ← hread]
      rw [← hopen] at hdepth
      exact (Search.feedLine_of_depth_ne_zero text hdepth).2

/-! ## Marks in a run -/

theorem Forest.readInOrder_empty (number : Nat) : Forest.ReadInOrder number Forest.empty := by
  cases number with
  | zero => exact .nothing
  | succ n => exact Forest.ReadInOrder.nothing.line [] n (Nat.zero_le n)

theorem Offline.readInOrder_forestFrom (number : Nat) (lines : List Bytes) :
    Forest.ReadInOrder (number + lines.length) (forestFrom number lines) :=
  (Forest.readInOrder_empty number).applyLines lines

/-- With enough scopes to mark, a line marks just the scopes that contain its match. -/
theorem Offline.any_target?_eq (hforward : matcher.Forward) {next : Nat}
    (hf : Forest.ReadInOrder next f) (hscopes : f.NestedAtMost scopes) (number : Nat)
    (text : Bytes) (id : Nat) :
    (target? matcher f number text).any (fun t => ((f.lineage t).take scopes).contains id) =
      (matcher number text).any fun span => f.contains number span id := by
  rcases hf.laminar with ⟨hwf, hl, -⟩
  unfold target?
  cases hspan : matcher number text with
  | none => rfl
  | some span =>
    rw [Option.bind_some, Option.any_some, hf.deepest?_eq (hforward hspan)]
    cases hfound : f.innermostContaining? number span with
    | none =>
      rw [Option.any_none, (Forest.innermostContaining?_eq_none_iff hf.unflushed).1 hfound id]
    | some t =>
      rcases Forest.innermostContaining?_spec hwf hl hf.unflushed (hforward hspan) hfound with
        ⟨ht, hothers⟩
      have htsize : t < f.size := Forest.lt_size_of_contains ht
      have hall : (f.lineage t).take scopes = f.lineage t :=
        List.take_of_length_le (hscopes t htsize)
      -- what contains the match is the scope that is found, or around it
      rw [Option.any_some, hall, Bool.eq_iff_iff, List.contains_iff_mem,
        Forest.mem_lineage_iff hwf.parentsOlder htsize]
      constructor
      · rintro (rfl | habove)
        · exact ht
        · exact hl.contains_around hwf.parentsOlder habove ht
      · exact hothers id

/-- With enough scopes to mark, a scope is marked just if it contains a match. -/
theorem Offline.isMarkedFrom_eq_holdsMatchFrom (hforward : matcher.Forward) {next : Nat}
    (hf : Forest.ReadInOrder next f) (hscopes : f.NestedAtMost scopes) (number : Nat)
    (lines : List Bytes) :
    isMarkedFrom matcher scopes f number lines = holdsMatchFrom matcher f number lines := by
  funext id
  unfold isMarkedFrom holdsMatchFrom
  congr 1
  funext ⟨text, number⟩
  exact any_target?_eq hforward hf hscopes number text id

/-- The scope around one that contains a match contains it as well. -/
theorem Offline.holdsMatchFrom_of_parent? {next p : Nat} (hf : Forest.ReadInOrder next f)
    (hp : f.parent? id = some p) (hid : holdsMatchFrom matcher f number lines id = true) :
    holdsMatchFrom matcher f number lines p = true := by
  rcases hf.laminar with ⟨hwf, hl, -⟩
  unfold holdsMatchFrom at hid ⊢
  rw [List.any_eq_true] at hid ⊢
  obtain ⟨⟨text, number⟩, hline, hmatch⟩ := hid
  obtain ⟨span, hspan, hcontains⟩ := (Option.any_eq_true _ _).1 hmatch
  refine ⟨(text, number), hline, (Option.any_eq_true _ _).2 ⟨span, hspan, ?_⟩⟩
  exact hl.contains_around hwf.parentsOlder (Forest.ancestor_of_parent? hp) hcontains

/-! ## Depth -/

theorem Forest.lineage_beside (hf : f.ParentsOlder) (base : Forest) (hid : id < f.size) :
    (base.beside f).lineage (id + base.size) = (f.lineage id).map (· + base.size) := by
  have hsize : id < (base.beside f).size := by
    rw [size_beside]
    omega
  unfold lineage
  rw [wayUp_beside, wayUp_eq_of_lt hf hsize hid]

/-- What later lines leave where it is, is nested no deeper than all there is afterwards. -/
theorem Forest.NestedAtMost.of_grownBy {n : Nat} {markers : List Marker} (hn : g.NestedAtMost n)
    (h : GrownBy markers f g) (hf : f.ParentsOlder) (hg : g.ParentsOlder) : f.NestedAtMost n := by
  intro id hid
  have hlength := hn id (Nat.lt_of_lt_of_le hid h.size_le)
  rw [h.lineage_eq hf hg hid] at hlength
  exact hlength

theorem Forest.NestedAtMost.of_beside {n : Nat} (hn : (base.beside f).NestedAtMost n)
    (hf : f.ParentsOlder) : f.NestedAtMost n := by
  intro id hid
  have hbeside : id + base.size < (base.beside f).size := by
    rw [size_beside]
    omega
  have hlength := hn (id + base.size) hbeside
  rw [lineage_beside hf base hid, List.length_map] at hlength
  exact hlength

/-- Where no scope is open after some lines, the scopes of what follows stand beside theirs. -/
theorem Offline.forest_append_of_depth_eq_zero (rest : List Bytes)
    (hdepth : (forest before).depth = 0) :
    forest (before ++ rest) = (forest before).beside (forestFrom before.length rest) := by
  have hbefore : (forest before).beside Forest.empty = forest before :=
    Forest.beside_empty (List.length_eq_zero_iff.1 hdepth)
  calc forest (before ++ rest)
      = (forest before).apply (markersFrom before.length rest) := by
        unfold forest
        rw [markersFrom_append, Forest.apply_append, Nat.zero_add]
    _ = ((forest before).beside Forest.empty).apply (markersFrom before.length rest) := by
        rw [hbefore]
    _ = (forest before).beside (forestFrom before.length rest) :=
        Forest.apply_beside (forest before) Forest.empty _

/-- A run is nested no deeper than the whole input. -/
theorem Offline.nestedAtMost_run {n : Nat} (hn : (forest (before ++ text :: after)).NestedAtMost n) :
    (forestFrom (runStart before) (before.drop (runStart before) ++ [text])).NestedAtMost n := by
  let run := before.drop (runStart before) ++ [text]
  have hlength : (before.take (runStart before)).length = runStart before :=
    List.length_take_of_le (runStart_le before)
  have hlines : before.take (runStart before) ++ run = before ++ [text] := by
    rw [← List.append_assoc, List.take_append_drop]
  have hbeside := forest_append_of_depth_eq_zero run (depth_take_runStart before)
  rw [hlines, hlength] at hbeside
  have hwhole : forest (before ++ text :: after) =
      (forest (before ++ [text])).apply (markersFrom (before ++ [text]).length after) := by
    unfold forest
    rw [← Forest.apply_append, List.append_cons, markersFrom_append, Nat.zero_add]
  have hrun := (readInOrder_forestFrom (runStart before) run).wellFormed
  have hupto : (forest (before ++ [text])).WellFormed := (readInOrder_forest _).wellFormed
  have hgrown := Forest.grownBy_apply hupto (markersFrom (before ++ [text]).length after)
  rw [← hwhole] at hgrown
  have hfinal : (forest (before ++ text :: after)).WellFormed := (readInOrder_forest _).wellFormed
  -- the scopes of the run stand beside the earlier ones, and later lines leave them where they are
  have hread := hn.of_grownBy hgrown hupto.parentsOlder hfinal.parentsOlder
  rw [hbeside] at hread
  exact hread.of_beside hrun.parentsOlder

/-! ## What a line releases -/

/-- The forest that is read and marked along a run is that of the run, and with enough scopes to
mark, its marks stand where there are matches. -/
theorem Offline.scan_run (hforward : matcher.Forward) (number : Nat) (lines : List Bytes)
    (hscopes : (forestFrom number lines).NestedAtMost scopes) :
    let f := forestFrom number lines
    let kept := Forest.empty.scan matcher scopes number lines
    kept.unmarked = f.unmarked ∧ kept.isMatched = holdsMatchFrom matcher f number lines := by
  intro f kept
  have hfinished : finishedFrom Forest.empty number lines = f := by
    unfold finishedFrom
    rw [Forest.unmarked_empty]
    rfl
  have hf := readInOrder_forestFrom number lines
  constructor
  · rw [← hfinished, ← unmarked_scan matcher scopes, Forest.unmarked_unmarked]
  · funext id
    rw [isMatched_scan hforward (Forest.readInOrder_empty number) lines id,
      Forest.isMatched_of_size_le (Nat.zero_le id), Bool.false_or, hfinished,
      isMarkedFrom_eq_holdsMatchFrom hforward hf hscopes]

/-- With enough scopes to mark, the results of a run are its outermost scopes around a match, in the
order they open. -/
theorem Offline.consolidate_run (hforward : matcher.Forward) (number : Nat) (lines : List Bytes)
    (hscopes : (forestFrom number lines).NestedAtMost scopes)
    (hdepth : (forestFrom number lines).depth = 0) :
    let f := forestFrom number lines
    (Forest.empty.scan matcher scopes number lines).consolidate =
      (List.range f.size).filter fun id =>
        (f.parent? id).isNone && holdsMatchFrom matcher f number lines id := by
  intro f
  let kept := Forest.empty.scan matcher scopes number lines
  have hf := readInOrder_forestFrom number lines
  have hkept : Forest.ReadInOrder (number + lines.length) kept :=
    (Forest.readInOrder_empty number).scan matcher scopes lines
  rcases scan_run hforward number lines hscopes with ⟨hsame, hmarks⟩
  have hparent : kept.parent? = f.parent? := Forest.parent?_eq_of_unmarked_eq hsame
  have hopen : kept.openStack = [] := by
    rw [Forest.openStack_eq_of_unmarked_eq hsame]
    exact List.length_eq_zero_iff.1 hdepth
  have hupward : kept.MarkedUpward := by
    intro id p hp hid
    rw [hparent] at hp
    rw [hmarks] at hid ⊢
    exact holdsMatchFrom_of_parent? hf hp hid
  rw [Forest.consolidate_eq_filter hkept.wellFormed hkept.laminar.2.1 hkept.closedInOrder
    hkept.unflushed hopen hupward, Forest.size_eq_of_unmarked_eq hsame, hparent, hmarks]

/-- The forest that is held after the delimiters and the match of a line, before anything is
dropped, is that of the run so far. -/
theorem scanLine_feedLines (matcher : Matcher) (options : Options) (before : List Bytes)
    (text : Bytes) :
    let s := (Search.start.feedLines matcher options before).2
    s.forest.scanLine matcher options.scopes s.linesRead text =
      Forest.empty.scan matcher options.scopes (Offline.runStart before)
        (before.drop (Offline.runStart before) ++ [text]) := by
  intro s
  have hread : s.linesRead = before.length :=
    Search.linesRead_feedLines_start matcher options before
  rw [forest_feedLines, hread, Forest.scan_concat, Offline.length_run]

/-- With enough scopes to mark, each line releases the outermost ranges of its run around a
match, if it ends the run. -/
theorem reports_feedLine_eq_balancedReports (hforward : matcher.Forward) (before : List Bytes)
    (text : Bytes)
    (hscopes : (Offline.forestFrom (Offline.runStart before)
      (before.drop (Offline.runStart before) ++ [text])).NestedAtMost options.scopes) :
    ((Search.start.feedLines matcher options before).2.feedLine matcher options text).reports =
      Offline.balancedReports matcher before text := by
  let s := (Search.start.feedLines matcher options before).2
  let start := Offline.runStart before
  let run := before.drop start ++ [text]
  let f := Offline.forestFrom start run
  have hheld := scanLine_feedLines matcher options before text
  rcases Offline.scan_run hforward start run hscopes with ⟨hsame, -⟩
  have hstack := Forest.openStack_eq_of_unmarked_eq hsame
  have hreports := Forest.reports_eq_of_unmarked_eq hsame
  have hline := (Search.feedLine_cases matcher options s text).2
  simp only [s, hheld] at hline
  unfold Offline.balancedReports
  rcases hline with ⟨hopen, hnone, -⟩ | ⟨hclosed, hsome, -⟩
  · have hdepth : ¬ f.depth = 0 := by
      intro hzero
      rw [hstack] at hopen
      exact hopen (List.length_eq_zero_iff.1 hzero)
    rw [hnone, if_neg hdepth]
  · have hdepth : f.depth = 0 := by
      rw [hstack] at hclosed
      exact List.length_eq_zero_iff.2 hclosed
    rw [hsome, hreports, Offline.consolidate_run hforward start run hscopes hdepth, if_pos hdepth]

/-- What a line is to release are scopes of its run that stand in no other one, in the order they
open. -/
theorem Offline.balancedReports_eq (matcher : Matcher) (before : List Bytes) (text : Bytes) :
    let f := forestFrom (runStart before) (before.drop (runStart before) ++ [text])
    ∃ ids : List Nat, balancedReports matcher before text = f.reports ids ∧
      ids.Pairwise (fun t u => t < u) ∧ ∀ id ∈ ids, f.parent? id = none := by
  let start := runStart before
  let run := before.drop start ++ [text]
  intro f
  unfold balancedReports
  by_cases hdepth : f.depth = 0
  · rw [if_pos hdepth]
    refine ⟨(List.range f.size).filter fun id =>
      (f.parent? id).isNone && holdsMatchFrom matcher f start run id, rfl, ?_, ?_⟩
    · exact List.pairwise_lt_range.filter _
    · intro id hid
      have hcond := (List.mem_filter.1 hid).2
      rw [Bool.and_eq_true, Option.isNone_iff_eq_none] at hcond
      exact hcond.1
  · rw [if_neg hdepth]
    exact ⟨[], rfl, .nil, fun id hid => absurd hid List.not_mem_nil⟩

/-- The outermost ranges of a run stand in the order of the text, each ending before the next
begins. -/
theorem Offline.pairwise_balancedReports (matcher : Matcher) (before : List Bytes) (text : Bytes) :
    (balancedReports matcher before text).Pairwise fun r r' =>
      r.start < r'.start ∧ r.EndsBefore r' := by
  have hf := readInOrder_forestFrom (runStart before) (before.drop (runStart before) ++ [text])
  rcases balancedReports_eq matcher before text with ⟨ids, hreports, hsorted, hroots⟩
  rw [hreports]
  exact hf.laminar.2.1.pairwise_reports hsorted hroots

/-- The outermost ranges of a run are disjoint. -/
theorem Offline.violation?_balancedReports (matcher : Matcher) (before : List Bytes)
    (text : Bytes) : Report.violation? (balancedReports matcher before text) = none := by
  have hf := readInOrder_forestFrom (runStart before) (before.drop (runStart before) ++ [text])
  have hends : ∀ r ∈ balancedReports matcher before text, r.EndsAfterStart := by
    intro r hr
    rcases balancedReports_eq matcher before text with ⟨ids, hreports, -, -⟩
    rw [hreports] at hr
    rcases Forest.mem_reports_iff.1 hr with ⟨id, -, s, hs, rfl⟩
    exact hf.laminar.2.1.endsAfterStart hs
  refine Report.violation?_eq_none_iff.2 ⟨hends, ?_⟩
  refine (pairwise_balancedReports matcher before text).imp_of_mem ?_
  intro r r' hr hr' hlater
  exact hlater.2.not_nested (hends r hr) (hends r' hr')

/-! ## Nesting of reports -/

/-- Of the reports of one line, one lies strictly inside another only across an unmarked scope. -/
theorem skipsUnmarked_feedLine (matcher : Matcher) (options : Options) (before : List Bytes)
    (text : Bytes) {r r' : Report} :
    let s := (Search.start.feedLines matcher options before).2
    let reports := (s.feedLine matcher options text).reports
    let held := s.forest.scanLine matcher options.scopes s.linesRead text
    r ∈ reports → r' ∈ reports → r.StrictlyContains r' → held.SkipsUnmarked r r' := by
  intro s reports held hr hr' hnested
  have hs : Forest.UsedInOrder s.linesRead true s.forest :=
    Search.usedInOrder_feedLines matcher options before
  have hheld := hs.scanLine matcher options.scopes text
  rcases (Search.feedLine_cases matcher options s text).2 with
    ⟨-, hreports, -⟩ | ⟨-, hreports, -⟩
  · rw [show reports = [] from hreports] at hr
    cases hr
  · rw [show reports = held.reports held.consolidate from hreports] at hr hr'
    exact hheld.laminar.skipsUnmarked hheld.wellFormed hr hr' hnested

/-- Of the reports with an end that come when the input ends, one lies strictly inside another only
across an unmarked scope. -/
theorem skipsUnmarked_finish (matcher : Matcher) (options : Options) (lines : List Bytes)
    {r r' : Report} :
    let final := (Search.start.feedLines matcher options lines).2
    r ∈ final.finish.reports → r' ∈ final.finish.reports → r.stop.isSome → r'.stop.isSome →
      r.StrictlyContains r' → final.forest.SkipsUnmarked r r' := by
  intro final hr hr' hstop hstop' hnested
  have hf : Forest.UsedInOrder final.linesRead true final.forest :=
    Search.usedInOrder_feedLines matcher options lines
  have hending : final.finish.reports =
      final.forest.reports final.forest.consolidate ++ final.forest.openReports := rfl
  -- a range with an end is not that of an open scope
  have hclosed : ∀ {r}, r ∈ final.finish.reports → r.stop.isSome →
      r ∈ final.forest.reports final.forest.consolidate := by
    intro r hr hstop
    rw [hending, List.mem_append] at hr
    rcases hr with hclosed | hopen
    · exact hclosed
    · have hnone := Forest.isUnterminated_of_mem_openReports hf.wellFormed hopen
      rw [Option.isNone_iff_eq_none.1 hnone] at hstop
      cases hstop
  exact hf.laminar.skipsUnmarked hf.wellFormed (hclosed hr hstop) (hclosed hr' hstop') hnested

/-- Of the reports with an end that a line or the end of the input releases, one lies strictly
inside another only if an unmarked scope stands between the two. With at least as many scopes to
mark as the input is nested deep, the reports of a line are the ranges of the outermost scopes of
its balanced run around a match; they stand in the order of the text, each ends before the next
begins, and none is nested in another. -/
theorem reports_nest_across_unmarked (matcher : Matcher) (options : Options) (lines : List Bytes)
    (hforward : matcher.Forward) :
    (∀ before text after, lines = before ++ text :: after →
      let s := (Search.start.feedLines matcher options before).2
      let reports := (s.feedLine matcher options text).reports
      let held := s.forest.scanLine matcher options.scopes s.linesRead text
      (∀ r ∈ reports, ∀ r' ∈ reports, r.StrictlyContains r' → held.SkipsUnmarked r r') ∧
      ((Offline.forest lines).NestedAtMost options.scopes →
        reports = Offline.balancedReports matcher before text ∧
        reports.Pairwise (fun r r' => r.start < r'.start ∧ r.EndsBefore r') ∧
        Report.violation? reports = none)) ∧
    let final := (Search.start.feedLines matcher options lines).2
    ∀ r ∈ final.finish.reports, ∀ r' ∈ final.finish.reports, r.stop.isSome → r'.stop.isSome →
      r.StrictlyContains r' → final.forest.SkipsUnmarked r r' := by
  constructor
  · rintro before text after rfl s reports held
    constructor
    · intro r hr r' hr' hnested
      exact skipsUnmarked_feedLine matcher options before text hr hr' hnested
    · intro hscopes
      have hreports : reports = Offline.balancedReports matcher before text :=
        reports_feedLine_eq_balancedReports hforward before text (Offline.nestedAtMost_run hscopes)
      rw [hreports]
      exact ⟨rfl, Offline.pairwise_balancedReports matcher before text,
        Offline.violation?_balancedReports matcher before text⟩
  · intro final r hr r' hr' hstop hstop' hnested
    exact skipsUnmarked_finish matcher options lines hr hr' hstop hstop' hnested

/-- The lines `(x` and `((x)))`, searched for `x`: with one scope to mark, the parenthesis in the
middle is left out and the other two are reported, one inside the other; with three, the outer
one is reported alone. -/
theorem reports_nest_across_unmarked_parenthesis :
    let matcher := Matcher.literal [0x78]
    let before : List Bytes := [[0x28, 0x78]]
    let text : Bytes := [0x28, 0x28, 0x78, 0x29, 0x29, 0x29]
    let narrow := (Search.start.feedLines matcher { scopes := 1 } before).2
    let wide := (Search.start.feedLines matcher { scopes := 3 } before).2
    (narrow.forest.scanLine matcher 1 1 text).SkipsUnmarked
        ⟨⟨0, 0⟩, some ⟨1, 5⟩⟩ ⟨⟨1, 1⟩, some ⟨1, 3⟩⟩ ∧
      (wide.feedLine matcher { scopes := 3 } text).reports = [⟨⟨0, 0⟩, some ⟨1, 5⟩⟩] := by
  intro matcher before text narrow wide
  have hforward : matcher.Forward := Matcher.forward_literal [0x78]
  have hnarrow := (reports_nest_across_unmarked matcher { scopes := 1 } (before ++ [text])
    hforward).1 before text [] rfl
  have hwide := (reports_nest_across_unmarked matcher { scopes := 3 } (before ++ [text])
    hforward).1 before text [] rfl
  constructor
  · exact hnarrow.1 ⟨⟨0, 0⟩, some ⟨1, 5⟩⟩ (by decide) ⟨⟨1, 1⟩, some ⟨1, 3⟩⟩ (by decide) (by decide)
  · exact (hwide.2 (by decide)).1.trans (by decide)

end ScopeSearch
