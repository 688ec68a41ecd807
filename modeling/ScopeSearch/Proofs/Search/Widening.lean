import ScopeSearch.Proofs.Forest.Widening
import ScopeSearch.Proofs.Search.Retained

/-!
# ScopeSearch.Proofs.Search.Widening — marking more scopes for a match

Two searches of the same lines, of which the wide one marks more scopes for a match, release reports
at the same steps, and the reports of each step cover each other. A scope that only the wide search
marks takes up what the narrow one reports inside it. It may still be open when the input ends, and
is then reported without an end; at a checkpoint nothing is open, so nothing is held back.

* `ReadInOrder.feedLine` — what a search holds has been read in order since the last checkpoint;
* `Widens.scanLine` — a line keeps the forests of the two searches alike but for their marks;
* `Search.Widens.feedLine`, `Search.Widens.feedLines` — a line, and so any lines, keep the two
  searches in step;
* `widening_covers` — so they release reports at the same steps, which cover each other.
-/

namespace ScopeSearch

variable {matcher : Matcher} {narrow wide : Options} {s t : Search}

/-! ## One line -/

/-- What a search holds has been read in order, also after a checkpoint, when it is nothing. -/
theorem Forest.ReadInOrder.feedLine (hs : s.forest.ReadInOrder s.linesRead) (matcher : Matcher)
    (options : Options) (text : Bytes) :
    let step := s.feedLine matcher options text
    step.search.forest.ReadInOrder step.search.linesRead := by
  intro step
  rcases Search.feedLine_cases matcher options s text with
    ⟨hread, ⟨-, -, hforest⟩ | ⟨-, -, -, hforest⟩⟩
  · rw [hread, hforest]
    exact hs.scanLine matcher options.scopes text
  · -- nothing is held, as after an empty line
    rw [hread, hforest]
    exact Forest.ReadInOrder.nothing.line [] s.linesRead (Nat.zero_le s.linesRead)

/-- A line keeps two forests alike but for their marks. -/
theorem Forest.Widens.scanLine {n m : Nat} {f g : Forest} (h : Forest.Widens n f g)
    (hf : f.WellFormed) (hle : n ≤ m) (matcher : Matcher) (number : Nat) (text : Bytes) :
    Forest.Widens n (f.scanLine matcher n number text) (g.scanLine matcher m number text) := by
  have hread := h.apply hf (Marker.onLine text number)
  unfold Forest.scanLine
  cases matcher number text with
  | none => exact hread
  | some span =>
    -- both searches find the same scope for the match
    have hfind := hread.innermostContaining?_eq number span
    simp only [Search.markMatch, hfind]
    split
    · exact hread.mark hle _
    · exact hread

/-! ## Two searches in step -/

/-- Where two searches stand that have read the same lines, the second one with more scopes to mark
for a match. -/
structure Search.Widens (narrow : Nat) (s t : Search) : Prop where
  linesRead_eq : t.linesRead = s.linesRead
  inOrder : s.forest.ReadInOrder s.linesRead
  forests : Forest.Widens narrow s.forest t.forest

theorem Search.widens_start (n : Nat) : Search.Widens n Search.start Search.start where
  linesRead_eq := rfl
  inOrder := .nothing
  forests := Forest.widens_refl n Forest.empty

namespace Search.Widens

/-- A line keeps two searches in step, and what it releases in both covers each other. -/
theorem feedLine (h : Search.Widens narrow.scopes s t) (hle : narrow.scopes ≤ wide.scopes)
    (matcher : Matcher) (text : Bytes) :
    let inner := s.feedLine matcher narrow text
    let outer := t.feedLine matcher wide text
    Search.Widens narrow.scopes inner.search outer.search ∧
      Report.Widened narrow.scopes inner.reports outer.reports := by
  intro inner outer
  let f := s.forest.scanLine matcher narrow.scopes s.linesRead text
  let g := t.forest.scanLine matcher wide.scopes s.linesRead text
  have hg : t.forest.scanLine matcher wide.scopes t.linesRead text = g := by rw [h.linesRead_eq]
  have hforests : Forest.Widens narrow.scopes f g :=
    h.forests.scanLine h.inOrder.wellFormed hle matcher s.linesRead text
  have hf := h.inOrder.scanLine matcher narrow.scopes text
  have hstack : g.openStack = f.openStack := Forest.openStack_eq_of_unmarked_eq hforests.same
  have hread : outer.search.linesRead = inner.search.linesRead := by
    rw [(Search.feedLine_cases matcher wide t text).1,
      (Search.feedLine_cases matcher narrow s text).1, h.linesRead_eq]
  have hnext := h.inOrder.feedLine matcher narrow text
  rcases Search.feedLine_together rfl hg hstack with
    ⟨hreports, hreports', hheld, hheld'⟩ | ⟨hclosed, hreports, hreports', hheld, hheld'⟩
  · refine ⟨⟨hread, hnext, ?_⟩, ?_⟩
    · rw [hheld, hheld']
      exact hforests
    · rw [hreports, hreports']
      exact Report.widened_nil narrow.scopes
  · refine ⟨⟨hread, hnext, ?_⟩, ?_⟩
    · rw [hheld, hheld']
      exact Forest.widens_refl narrow.scopes Forest.empty
    · -- a checkpoint of both: with nothing open, what waits is all there is to report
      rw [hreports, hreports', ← Forest.endReports_of_openStack_eq_nil hclosed,
        ← Forest.endReports_of_openStack_eq_nil (hstack.trans hclosed)]
      exact hforests.endReports hf.wellFormed hf.laminar.2.1 hf.unflushed

/-- Any lines keep two searches in step. -/
theorem feedLines (h : Search.Widens narrow.scopes s t) (hle : narrow.scopes ≤ wide.scopes)
    (matcher : Matcher) (lines : List Bytes) :
    let (inner, innerEnd) := s.feedLines matcher narrow lines
    let (outer, outerEnd) := t.feedLines matcher wide lines
    List.Forall₂ (fun a b => Report.Widened narrow.scopes a.reports b.reports) inner outer ∧
      Search.Widens narrow.scopes innerEnd outerEnd := by
  induction lines generalizing s t with
  | nil => exact ⟨.nil, h⟩
  | cons text rest ih =>
    rcases h.feedLine hle matcher text with ⟨hnext, hreports⟩
    rcases ih hnext with ⟨hsteps, hend⟩
    exact ⟨.cons hreports hsteps, hend⟩

/-- At the end of the input, what two searches in step report covers each other. -/
theorem finish (h : Search.Widens narrow.scopes s t) :
    Report.Widened narrow.scopes s.finish.reports t.finish.reports := by
  have hs := h.inOrder
  exact h.forests.endReports hs.wellFormed hs.laminar.2.1 hs.unflushed

end Search.Widens

/-- A wider search of the same lines. At each line, and at the end of the input, every report of the
narrow search is covered by one of the wide search. If the narrow search marks at least one scope
for a match, then every report of the wide search covers one of the narrow search as well, so that
both release reports at the same steps. -/
theorem widening_covers (matcher : Matcher) (narrow wide : Options) (lines : List Bytes)
    (hle : narrow.scopes ≤ wide.scopes) :
    let (inner, innerEnd) := Search.start.feedLines matcher narrow lines
    let (outer, outerEnd) := Search.start.feedLines matcher wide lines
    List.Forall₂ (fun a b => Report.Widened narrow.scopes a.reports b.reports) inner outer ∧
      Report.Widened narrow.scopes innerEnd.finish.reports outerEnd.finish.reports := by
  rcases (Search.widens_start narrow.scopes).feedLines hle matcher lines with ⟨hsteps, hend⟩
  exact ⟨hsteps, hend.finish⟩

/-- After the line `([x]` the bracket is reported if one scope is marked for the match. If two are
marked, then the open parenthesis is reported in its place. -/
theorem widening_covers_open_scope :
    let lines : List Bytes := [[0x28, 0x5B, 0x78, 0x5D]]
    let inner := (Search.start.feedLines (Matcher.literal [0x78]) { scopes := 1 } lines).2
    let outer := (Search.start.feedLines (Matcher.literal [0x78]) { scopes := 2 } lines).2
    inner.finish.reports = [⟨⟨0, 1⟩, some ⟨0, 3⟩⟩] ∧ outer.finish.reports = [⟨⟨0, 0⟩, none⟩] ∧
      Report.Widened 1 inner.finish.reports outer.finish.reports := by
  have hwidened := (widening_covers (Matcher.literal [0x78]) { scopes := 1 } { scopes := 2 }
    [[0x28, 0x5B, 0x78, 0x5D]] (by decide)).2
  exact ⟨by decide, by decide, hwidened⟩

end ScopeSearch
