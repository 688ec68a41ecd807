import ScopeSearch.Proofs.Search.Retained

/-!
# ScopeSearch.Proofs.Search.Offline — what a search reports, from the finished forest

A search marks scopes while more are still opening and closing, and drops what it holds at every
checkpoint. `Offline.reports` says what it reports without any of this: all delimiters are read
first, and each match is then looked for in the finished forest.

* `deepest?_finishedFrom` — the deepest scope around a match in the finished forest is the scope that
  is found when its line is read;
* `isMatched_scan` — so the same scopes are marked;
* `reports_eq_offline` — and the same scopes are reported, in the same order.
-/

namespace ScopeSearch

namespace Offline

/-- The delimiters of lines, the first of which has the given number, in the order they are read. -/
def markersFrom (number : Nat) (lines : List Bytes) : List Marker :=
  (lines.zipIdx number).flatMap fun (text, number) => Marker.onLine text number

/-- The forest of all lines. -/
def forest (lines : List Bytes) : Forest :=
  Forest.empty.apply (markersFrom 0 lines)

/-- The deepest scope of the forest `f` around the match on a line, if there are both. -/
def target? (matcher : Matcher) (f : Forest) (number : Nat) (text : Bytes) : Option ScopeId :=
  (matcher number text).bind (f.deepest? number)

/-- The scope is among the first `scopes` ones on the way up from the deepest scope around the match
on one of the lines. -/
def isMarkedFrom (matcher : Matcher) (scopes : Nat) (f : Forest) (number : Nat)
    (lines : List Bytes) (id : ScopeId) : Bool :=
  (lines.zipIdx number).any fun (text, number) =>
    (target? matcher f number text).any fun t => ((f.lineage t).take scopes).contains id

/-- What the lines are to be reported as: the closed scopes that are marked and stand in no marked
one, in the order in which the first scope closed that an unbroken line of marked scopes leads up
from to each; and then the marked scopes that have not closed, outermost first. -/
def reports (matcher : Matcher) (scopes : Nat) (lines : List Bytes) : List Report :=
  let f := forest lines
  let marked := isMarkedFrom matcher scopes f 0 lines
  let closed := (f.closed.toList.filter (f.isOutermost marked)).mergeSort fun t u =>
    f.firstFold marked t ≤ f.firstFold marked u
  f.reports closed ++ f.reports (f.openIds.filter marked)

variable {matcher : Matcher} {scopes number : Nat} {f : Forest} {text : Bytes}
  {lines rest : List Bytes}

theorem markersFrom_cons (number : Nat) (text : Bytes) (rest : List Bytes) :
    markersFrom number (text :: rest) =
      Marker.onLine text number ++ markersFrom (number + 1) rest := rfl

theorem markersFrom_append (number : Nat) (before after : List Bytes) :
    markersFrom number (before ++ after) =
      markersFrom number before ++ markersFrom (number + before.length) after := by
  unfold markersFrom
  rw [List.zipIdx_append, List.flatMap_append]

/-- The markers of lines stand on these lines. -/
theorem le_line_of_mem_markersFrom {m : Marker} (hm : m ∈ markersFrom number lines) :
    number ≤ m.position.line := by
  rcases List.mem_flatMap.1 hm with ⟨⟨text, number'⟩, hline, hm⟩
  rw [Marker.line_of_mem_onLine hm]
  exact List.le_snd_of_mem_zipIdx hline

/-- The markers of lines stand in the order they are read. -/
theorem pairwise_markersFrom (number : Nat) (lines : List Bytes) :
    (markersFrom number lines).Pairwise fun a b => a.position < b.position := by
  induction lines generalizing number with
  | nil => exact .nil
  | cons text rest ih =>
    rw [markersFrom_cons]
    refine List.pairwise_append.2 ⟨Marker.pairwise_onLine text number, ih (number + 1), ?_⟩
    intro a ha b hb
    have hlater : number + 1 ≤ b.position.line := le_line_of_mem_markersFrom hb
    rw [← Marker.line_of_mem_onLine ha] at hlater
    exact .inl hlater

/-- No marker stands on lines twice. -/
theorem nodup_markersFrom (number : Nat) (lines : List Bytes) :
    (markersFrom number lines).Nodup := by
  refine (pairwise_markersFrom number lines).imp fun {a b} hlt heq => ?_
  rw [heq] at hlt
  exact Position.lt_irrefl _ hlt

/-! ## From a line to the finished forest -/

/-- The forest after all lines, from the one before some of them. -/
def finishedFrom (f : Forest) (number : Nat) (lines : List Bytes) : Forest :=
  f.unmarked.apply (markersFrom number lines)

theorem finishedFrom_empty (lines : List Bytes) :
    finishedFrom Forest.empty 0 lines = forest lines := by
  unfold finishedFrom forest
  rw [Forest.unmarked_empty]

theorem finishedFrom_scanLine (matcher : Matcher) (scopes number : Nat) (f : Forest) (text : Bytes)
    (rest : List Bytes) :
    finishedFrom (f.scanLine matcher scopes number text) (number + 1) rest =
      finishedFrom f number (text :: rest) := by
  unfold finishedFrom
  rw [Forest.unmarked_scanLine, Forest.unmarked_apply, markersFrom_cons, Forest.apply_append]

/-- Without its marks, the forest that has kept everything is the finished one. -/
theorem unmarked_scan (matcher : Matcher) (scopes number : Nat) (f : Forest)
    (lines : List Bytes) :
    (f.scan matcher scopes number lines).unmarked = finishedFrom f number lines := by
  induction lines generalizing number f with
  | nil => rfl
  | cons text rest ih => rw [Forest.scan, ih, finishedFrom_scanLine]

/-- After a line, the finished forest grows by the markers of later lines alone. -/
theorem grownBy_finishedFrom (hf : Forest.ReadInOrder number f) (text : Bytes)
    (rest : List Bytes) :
    let read := f.apply (Marker.onLine text number)
    let finished := finishedFrom f number (text :: rest)
    Forest.GrownBy (markersFrom (number + 1) rest) read.unmarked finished ∧
      finished.WellFormed := by
  intro read finished
  have hread : read.unmarked.WellFormed :=
    (hf.wellFormed.apply _).of_unmarked_eq (Forest.unmarked_unmarked read)
  have hfinished : finished = read.unmarked.apply (markersFrom (number + 1) rest) := by
    show f.unmarked.apply (markersFrom number (text :: rest)) = _
    rw [markersFrom_cons, Forest.apply_append, Forest.unmarked_apply]
  rw [hfinished]
  exact ⟨Forest.grownBy_apply hread _, hread.apply _⟩

/-- In the finished forest the deepest scope around a span is the one that is found when its line is
read. -/
theorem deepest?_finishedFrom (hf : Forest.ReadInOrder number f) (text : Bytes)
    (rest : List Bytes) {span : Span} (hspan : span.start ≤ span.stop) :
    (finishedFrom f number (text :: rest)).deepest? number span =
      (f.apply (Marker.onLine text number)).innermostContaining? number span := by
  let read := f.apply (Marker.onLine text number)
  have hsame : read.unmarked.unmarked = read.unmarked := Forest.unmarked_unmarked read
  have hread : Forest.ReadInOrder (number + 1) read := hf.line text number (Nat.le_refl number)
  rcases hread.laminar with ⟨hwf, hl, -⟩
  rcases grownBy_finishedFrom hf text rest with ⟨hgrown, hfinished⟩
  have hlater : ∀ m ∈ markersFrom (number + 1) rest, number < m.position.line :=
    fun m hm => le_line_of_mem_markersFrom hm
  rw [Forest.deepest?_eq_innermostContaining? (hwf.of_unmarked_eq hsame)
    (hl.of_unmarked_eq hsame) (hread.unflushed.of_unmarked_eq hsame) hspan hgrown
    hfinished.parentsOlder hlater, Forest.innermostContaining?_unmarked]

/-! ## Marks -/

/-- A line marks the first scopes on the way up from the deepest scope around its match in the
finished forest. -/
theorem isMatched_scanLine (hforward : matcher.Forward) (hf : Forest.ReadInOrder number f)
    (text : Bytes) (rest : List Bytes) (id : ScopeId) :
    (f.scanLine matcher scopes number text).isMatched id =
      (f.isMatched id ||
        (target? matcher (finishedFrom f number (text :: rest)) number text).any fun t =>
          (((finishedFrom f number (text :: rest)).lineage t).take scopes).contains id) := by
  let read := f.apply (Marker.onLine text number)
  let finished := finishedFrom f number (text :: rest)
  have hdeepest : ∀ span, matcher number text = some span →
      finished.deepest? number span = read.innermostContaining? number span :=
    fun span hfound => deepest?_finishedFrom hf text rest (hforward hfound)
  have hmarks : read.isMatched id = f.isMatched id := Forest.isMatched_apply f _ id
  show (Search.markMatch scopes number text read (matcher number text)).1.isMatched id =
    (f.isMatched id || (target? matcher finished number text).any fun t =>
      ((finished.lineage t).take scopes).contains id)
  rcases markMatch_cases scopes number text read (matcher number text) with
    ⟨span, t, hfound, ht, hmark⟩ | ⟨hnone, hsame⟩
  · have htarget : target? matcher finished number text = some t := by
      unfold target?
      rw [hfound, Option.bind_some, hdeepest span hfound, ht]
    -- later markers leave the way up from the scope as it is
    have hlineage : (finished.lineage t).take scopes = read.wayUp scopes t := by
      rcases grownBy_finishedFrom hf text rest with ⟨hgrown, hfinished⟩
      have hread : read.WellFormed := hf.wellFormed.apply _
      have hlt : t < read.unmarked.size := by
        rw [Forest.size_unmarked]
        exact Forest.lt_size_of_contains (List.find?_some ht)
      have hunmarked : read.unmarked.ParentsOlder :=
        (hread.of_unmarked_eq (Forest.unmarked_unmarked read)).parentsOlder
      rw [hgrown.lineage_eq hunmarked hfinished.parentsOlder hlt, Forest.lineage_unmarked,
        Forest.take_lineage hread.parentsOlder]
    rw [hmark, Forest.isMatched_mark, hmarks, htarget, Option.any_some, hlineage,
      List.contains_eq_mem]
  · -- without a match, or with one outside every scope, there is no deepest scope either
    have htarget : target? matcher finished number text = none := by
      unfold target?
      cases hfound : matcher number text with
      | none => rfl
      | some span => rw [Option.bind_some, hdeepest span hfound, hnone span hfound]
    rw [hsame, hmarks, htarget, Option.any_none, Bool.or_false]

/-- The forest that has kept everything has the marks that the finished forest says. -/
theorem isMatched_scan (hforward : matcher.Forward) (hf : Forest.ReadInOrder number f)
    (lines : List Bytes) (id : ScopeId) :
    (f.scan matcher scopes number lines).isMatched id =
      (f.isMatched id ||
        isMarkedFrom matcher scopes (finishedFrom f number lines) number lines id) := by
  induction lines generalizing number f with
  | nil => simp [Forest.scan, isMarkedFrom]
  | cons text rest ih =>
    -- the finished forest is the same one from line to line
    rw [Forest.scan, ih (hf.scanLine matcher scopes text), finishedFrom_scanLine,
      isMatched_scanLine hforward hf text rest, Bool.or_assoc]
    rfl

/-- Without its marks, the forest that has kept everything is that of all lines. -/
theorem unmarked_scan_empty (matcher : Matcher) (scopes : Nat) (lines : List Bytes) :
    (Forest.empty.scan matcher scopes 0 lines).unmarked = forest lines := by
  rw [unmarked_scan, finishedFrom_empty]

/-- The marks of the forest that has kept everything, from the forest of all lines. -/
theorem isMatched_scan_empty (hforward : matcher.Forward) (scopes : Nat) (lines : List Bytes) :
    (Forest.empty.scan matcher scopes 0 lines).isMatched =
      isMarkedFrom matcher scopes (forest lines) 0 lines := by
  funext id
  rw [isMatched_scan hforward .nothing lines id, Forest.isMatched_of_size_le (Nat.zero_le id),
    Bool.false_or, finishedFrom_empty]

/-- The reports of the forest that has kept everything are those of the finished forest. -/
theorem reports_scan (hforward : matcher.Forward) (lines : List Bytes) :
    let kept := Forest.empty.scan matcher scopes 0 lines
    kept.reports kept.consolidate ++ kept.openReports = reports matcher scopes lines := by
  intro kept
  have hfinished : kept.unmarked = forest lines := unmarked_scan_empty matcher scopes lines
  have hmarks : kept.isMatched = isMarkedFrom matcher scopes (forest lines) 0 lines :=
    isMatched_scan_empty hforward scopes lines
  have hkept : kept.WellFormed := (Forest.ReadInOrder.nothing.scan matcher scopes lines).wellFormed
  unfold reports Forest.openReports Forest.openIds
  rw [Forest.consolidate_eq_mergeSort hkept, hmarks, ← hfinished]
  simp only [Forest.closed_unmarked, Forest.openStack_unmarked, Forest.isOutermost_unmarked,
    Forest.firstFold_unmarked, Forest.reports_unmarked]

end Offline

/-- A search has as many scopes open as the forest of the lines. -/
theorem Search.depth_feedLines (matcher : Matcher) (options : Options) (lines : List Bytes) :
    (Search.start.feedLines matcher options lines).2.depth = (Offline.forest lines).depth := by
  rcases dropped_start.feedLines matcher options lines with ⟨base, -, -, hforest, -⟩
  have hstart : Forest.empty.beside Search.start.forest = Forest.empty := Forest.beside_empty rfl
  have hall := Offline.unmarked_scan_empty matcher options.scopes lines
  rw [hstart] at hforest
  unfold Search.depth Forest.depth
  rw [← hall, Forest.openStack_unmarked]
  have hstack := congrArg (fun f => f.openStack.length) hforest
  simpa [Search.start] using hstack

/-- The scope that is found for a match on line `before.length`, among those that the search holds
then, opens where the deepest scope around the match in the finished forest opens. -/
theorem opener_eq_offline (matcher : Matcher) (options : Options) (before after : List Bytes)
    (text : Bytes) {span : Span} (hspan : span.start ≤ span.stop) :
    let number := before.length
    let held := (Search.start.feedLines matcher options before).2.forest.apply
      (Marker.onLine text number)
    let finished := Offline.forest (before ++ text :: after)
    ((held.innermostContaining? number span).bind held.find?).map Scope.opener =
      ((finished.deepest? number span).bind finished.find?).map Scope.opener := by
  intro number held finished
  let s := (Search.start.feedLines matcher options before).2
  let kept := Forest.empty.scan matcher options.scopes 0 before
  let whole := kept.apply (Marker.onLine text number)
  rcases dropped_start.feedLines matcher options before with ⟨base, h, hread, hforest, -⟩
  have hstart : Forest.empty.beside Search.start.forest = Forest.empty := Forest.beside_empty rfl
  rw [hstart] at hforest
  have hkept : kept = base.beside s.forest := hforest.symm
  have hwhole : whole = base.beside held := by
    show kept.apply _ = _
    rw [hkept, Forest.apply_beside]
  have hnumber : s.linesRead = number := hread.trans (Nat.zero_add before.length)
  have horder : Forest.ReadInOrder number kept := by
    have hscan := Forest.ReadInOrder.nothing.scan matcher options.scopes before
    rw [Nat.zero_add] at hscan
    exact hscan
  have hfinished : finished = Offline.finishedFrom kept number (text :: after) := by
    show Forest.empty.apply _ = kept.unmarked.apply _
    rw [Offline.markersFrom_append, Forest.apply_append, Offline.unmarked_scan,
      Offline.finishedFrom_empty, Nat.zero_add]
    rfl
  have hfind : whole.innermostContaining? number span =
      (held.innermostContaining? number span).map (· + base.size) := by
    have hsame := h.innermostContaining?_eq text span
    rw [hnumber, ← hkept] at hsame
    exact hsame
  rcases Offline.grownBy_finishedFrom horder text after with ⟨hgrown, -⟩
  rw [hfinished, Offline.deepest?_finishedFrom horder text after hspan, ← hfinished, hfind]
  cases hid : held.innermostContaining? number span with
  | none => rfl
  | some id =>
    -- the scope found has been there ever since, under its raised id
    obtain ⟨t, ht⟩ := Forest.exists_find? (Forest.lt_size_of_contains (List.find?_some hid))
    have hraised : whole.unmarked.find? (id + base.size) = some (t.raised base.size).unmarked := by
      rw [Forest.find?_unmarked, hwhole, Forest.find?_beside_right, ht]
      rfl
    obtain ⟨u, hu⟩ := Forest.exists_find?
      (Nat.lt_of_lt_of_le (Forest.lt_size_of_find? hraised) hgrown.size_le)
    have hopener : u.opener = t.opener := (hgrown.old hraised hu).1
    rw [← hfinished] at hu
    simp [ht, hu, hopener]

/-- A search of any lines reports what the finished forest says, although it marks scopes while
others are still open and drops all it holds at every checkpoint. In particular, the scope that it
finds for a match among those it holds is the deepest one of the finished forest. -/
theorem reports_eq_offline (matcher : Matcher) (options : Options) (lines : List Bytes)
    (hforward : matcher.Forward) :
    let (steps, final) := Search.start.feedLines matcher options lines
    steps.flatMap Step.reports ++ final.finish.reports =
        Offline.reports matcher options.scopes lines ∧
      ∀ before text after span, lines = before ++ text :: after →
        matcher before.length text = some span →
        let held := (Search.start.feedLines matcher options before).2.forest.apply
          (Marker.onLine text before.length)
        let finished := Offline.forest lines
        ((held.innermostContaining? before.length span).bind held.find?).map Scope.opener =
          ((finished.deepest? before.length span).bind finished.find?).map Scope.opener := by
  constructor
  · exact (reports_eq_scan matcher options lines).trans (Offline.reports_scan hforward lines)
  · rintro before text after span rfl hfound
    exact opener_eq_offline matcher options before after text (hforward hfound)

/-- The lines `([x]`, `{x})` and `(x`, searched for `x` with one scope to mark: a checkpoint after
the second one, and a scope that never closes. -/
theorem reports_eq_offline_checkpoint :
    Offline.reports (Matcher.literal [0x78]) 1
        [[0x28, 0x5B, 0x78, 0x5D], [0x7B, 0x78, 0x7D, 0x29], [0x28, 0x78]] =
      [⟨⟨0, 1⟩, some ⟨0, 3⟩⟩, ⟨⟨1, 0⟩, some ⟨1, 2⟩⟩, ⟨⟨2, 0⟩, none⟩] := by
  have hreports := (reports_eq_offline (Matcher.literal [0x78]) { scopes := 1 }
    [[0x28, 0x5B, 0x78, 0x5D], [0x7B, 0x78, 0x7D, 0x29], [0x28, 0x78]]
    (Matcher.forward_literal [0x78])).1
  rw [← hreports]
  decide

end ScopeSearch
