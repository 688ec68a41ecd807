import ScopeSearch.Proofs.Search.Retained

/-!
# ScopeSearch.Proofs.Search.Innermost — the scope that is found is the tightest

The tightest scope around a span is looked for among the closed scopes that wait and the open ones,
so a flush may hide it. `UsedInOrder` are the forests that come from lines in the order of their
numbers, with marks, flushes and releases in between, and it says whether a closed scope has been
flushed since the forest was last empty.

* `UsedInOrder.wellFormed`, `UsedInOrder.laminar`, `UsedInOrder.unflushed` — what holds of them;
* `Search.usedInOrder_feedLines` — a search, which drops everything after each flush, never hides a
  scope;
* `innermost_is_tightest` — where none is hidden, the scope that is found is the tightest of all.
-/

namespace ScopeSearch

namespace Forest

variable {f : Forest} {next line : Nat} {whole : Bool} {span : Span}

/-! ## Forests in use -/

/-- The forest comes from the empty one by lines read in the order of their numbers, all below
`next`, with any marks, flushes and releases in between; `whole` says that no closed scope has been
flushed since the forest was last empty. -/
inductive UsedInOrder : Nat → Bool → Forest → Prop where
  | nothing : UsedInOrder 0 true Forest.empty
  | line {next : Nat} {whole : Bool} {f : Forest} (hf : UsedInOrder next whole f) (text : Bytes)
      (number : Nat) (hnumber : next ≤ number) :
      UsedInOrder (number + 1) whole (f.apply (Marker.onLine text number))
  | marking {next : Nat} {whole : Bool} {f : Forest} (hf : UsedInOrder next whole f) (count : Nat)
      (id : ScopeId) : UsedInOrder next whole (f.mark count id).1
  | flushing {next : Nat} {whole : Bool} {f : Forest} (hf : UsedInOrder next whole f) :
      UsedInOrder next (whole && f.closed.isEmpty) f.flushClosed.2
  | releasing {next : Nat} {whole : Bool} {f : Forest} (hf : UsedInOrder next whole f) :
      UsedInOrder next (whole || f.release.scopes.isEmpty) f.release

/-- A flush moves no scope. -/
theorem Laminar.flushClosed (hl : f.Laminar) : f.flushClosed.2.Laminar where
  opener_lt := hl.opener_lt
  opener_lt_closer := hl.opener_lt_closer
  closer_lt_of_ancestor := hl.closer_lt_of_ancestor
  closer_lt_opener := hl.closer_lt_opener

theorem unflushed_of_scopes_isEmpty (h : f.scopes.isEmpty = true) : f.Unflushed := by
  intro id hid
  have hsize : f.size = 0 := Array.isEmpty_iff_size_eq_zero.1 h
  omega

namespace UsedInOrder

theorem wellFormed (h : UsedInOrder next whole f) : f.WellFormed := by
  induction h with
  | nothing => exact wellFormed_empty
  | line _ text number _ ih => exact ih.apply (Marker.onLine text number)
  | marking _ count id ih => exact ih.mark count id
  | flushing _ ih => exact ih.flushClosed
  | releasing _ ih => exact ih.release

/-- The ranges mirror the links, and all markers stand before the next line. -/
theorem laminar_and_before (h : UsedInOrder next whole f) : f.Laminar ∧ f.Before ⟨next, 0⟩ := by
  induction h with
  | nothing => exact ⟨laminar_empty, before_empty _⟩
  | line hf text number hnumber ih =>
    exact laminar_apply_onLine hf.wellFormed ih.1 ih.2 text hnumber
  | @marking next whole f _ count id ih =>
    have hsame := unmarked_mark f count id
    exact ⟨ih.1.of_unmarked_eq hsame, ih.2.of_unmarked_eq hsame⟩
  | flushing _ ih => exact ⟨ih.1.flushClosed, ih.2⟩
  | releasing _ ih =>
    rw [release_eq]
    split
    · exact ⟨laminar_empty, before_empty _⟩
    · exact ih

theorem laminar (h : UsedInOrder next whole f) : f.Laminar :=
  h.laminar_and_before.1

/-- Where no closed scope has been flushed, every scope waits or is open. -/
theorem unflushed (h : UsedInOrder next whole f) (hwhole : whole = true) : f.Unflushed := by
  induction h with
  | nothing => exact unflushed_empty
  | line _ text number _ ih => exact (ih hwhole).apply (Marker.onLine text number)
  | @marking next whole f _ count id ih =>
    exact (ih hwhole).of_unmarked_eq (unmarked_mark f count id)
  | flushing _ ih =>
    -- the flush has found nothing that waited, so it has changed nothing
    rw [Bool.and_eq_true, Array.isEmpty_iff] at hwhole
    intro id hid
    have hlisted := ih hwhole.1 hid
    rw [hwhole.2] at hlisted
    exact hlisted
  | @releasing next whole f _ ih =>
    rw [Bool.or_eq_true] at hwhole
    rcases hwhole with hwhole | hempty
    · rw [release_eq]
      split
      · exact unflushed_empty
      · exact ih hwhole
    · exact unflushed_of_scopes_isEmpty hempty

theorem scanLine (h : UsedInOrder next whole f) (matcher : Matcher) (scopes : Nat) (text : Bytes) :
    UsedInOrder (next + 1) whole (f.scanLine matcher scopes next text) := by
  have hline := h.line text next (Nat.le_refl next)
  unfold Forest.scanLine
  rcases markMatch_cases scopes next text (f.apply (Marker.onLine text next))
    (matcher next text) with ⟨span, id, -, -, hmark⟩ | ⟨-, hsame⟩
  · rw [hmark]
    exact hline.marking scopes id
  · rw [hsame]
    exact hline

end UsedInOrder

end Forest

/-! ## What a search holds -/

namespace Search

variable {s : Search}

/-- A search flushes closed scopes only where it drops them in the same step. -/
theorem usedInOrder_feedLine (h : Forest.UsedInOrder s.linesRead true s.forest)
    (matcher : Matcher) (options : Options) (text : Bytes) :
    let step := s.feedLine matcher options text
    Forest.UsedInOrder step.search.linesRead true step.search.forest := by
  intro step
  have hmarked := h.scanLine matcher options.scopes text
  rcases feedLine_cases matcher options s text with
    ⟨hread, ⟨-, -, hforest⟩ | ⟨hopen, -, -, hforest⟩⟩
  · rw [hread, hforest]
    exact hmarked
  · let marked := s.forest.scanLine matcher options.scopes s.linesRead text
    have hempty : marked.flushClosed.2.release = Forest.empty := by
      rw [Forest.release_eq, if_pos ⟨hopen, rfl⟩]
    have hdropped := hmarked.flushing.releasing
    rw [hempty] at hdropped
    rw [hread, hforest]
    simpa [Forest.empty] using hdropped

/-- After any lines, none of the scopes that a search holds has been flushed. -/
theorem usedInOrder_feedLines (matcher : Matcher) (options : Options) (lines : List Bytes) :
    let final := (start.feedLines matcher options lines).2
    Forest.UsedInOrder final.linesRead true final.forest := by
  have hrun : ∀ s : Search, Forest.UsedInOrder s.linesRead true s.forest →
      let final := (s.feedLines matcher options lines).2
      Forest.UsedInOrder final.linesRead true final.forest := by
    induction lines with
    | nil => exact fun s hs => hs
    | cons text rest ih =>
      intro s hs
      exact ih _ (usedInOrder_feedLine hs matcher options text)
  exact hrun start .nothing

end Search

/-! ## The tightest scope -/

/-- Where no closed scope has been flushed since the forest was last empty, nothing is found just if
no scope contains the span. What is found contains it, and every other scope that does is around
it. -/
theorem innermost_is_tightest {f : Forest} {next line : Nat} {span : Span}
    (h : Forest.UsedInOrder next true f) (hspan : span.start ≤ span.stop) :
    (f.innermostContaining? line span = none ↔
      ∀ id s, f.find? id = some s → ¬ s.Contains line span) ∧
    ∀ id, f.innermostContaining? line span = some id →
      ∃ s, f.find? id = some s ∧ s.Contains line span ∧
        ∀ other t, f.find? other = some t → t.Contains line span →
          other = id ∨ f.Ancestor other id := by
  have hwhole : f.Unflushed := h.unflushed rfl
  constructor
  · rw [Forest.innermostContaining?_eq_none_iff hwhole]
    constructor
    · intro hnone id s hs hcontains
      have htrue := (Forest.contains_iff line span id).2 ⟨s, hs, hcontains⟩
      rw [hnone id] at htrue
      cases htrue
    · intro hnone id
      by_contra hid
      rw [Bool.not_eq_false, Forest.contains_iff] at hid
      rcases hid with ⟨s, hs, hcontains⟩
      exact hnone id s hs hcontains
  · intro id hfound
    rcases Forest.innermostContaining?_spec h.wellFormed h.laminar hwhole hspan hfound with
      ⟨hid, hothers⟩
    rcases (Forest.contains_iff line span id).1 hid with ⟨s, hs, hcontains⟩
    refine ⟨s, hs, hcontains, ?_⟩
    intro other t ht htcontains
    exact hothers other ((Forest.contains_iff line span other).2 ⟨t, ht, htcontains⟩)

/-- After the lines `(a)`, which is flushed and dropped, and `{(a)[`, the tightest scope around
columns 2 to 5 of the second one is its brace: the parenthesis closes too early, and the bracket
opens too late. -/
theorem innermost_is_tightest_past_checkpoint :
    let lines : List Bytes := [[0x28, 0x61, 0x29], [0x7B, 0x28, 0x61, 0x29, 0x5B]]
    let f := (Search.start.feedLines (Matcher.literal [0x61]) {} lines).2.forest
    f.innermostContaining? 1 ⟨2, 5⟩ = some 0 ∧ ∃ s, f.find? 0 = some s ∧ s.Contains 1 ⟨2, 5⟩ ∧
      ∀ other t, f.find? other = some t → t.Contains 1 ⟨2, 5⟩ →
        other = 0 ∨ f.Ancestor other 0 := by
  intro lines f
  have hused := Search.usedInOrder_feedLines (Matcher.literal [0x61]) {} lines
  have hfound : f.innermostContaining? 1 ⟨2, 5⟩ = some 0 := by decide
  have hspan : (⟨2, 5⟩ : Span).start ≤ (⟨2, 5⟩ : Span).stop := by decide
  exact ⟨hfound, (innermost_is_tightest hused hspan).2 0 hfound⟩

end ScopeSearch
