import Mathlib.Data.List.MinMax
import ScopeSearch.Proofs.Forest.Growth

/-!
# ScopeSearch.Proofs.Forest.Tightest — the tightest scope around a span

The search looks through the closed scopes in the order they closed, and then through the open ones
from the innermost outwards. As long as nothing has been flushed (`Unflushed`) and markers have been
read in order, the first scope that contains a span is the innermost that does:

* `Laminar.nested_of_contains` — any two scopes around one span are nested;
* `innermostContaining?_spec` — the scope found contains the span, and all others that do are around
  it;
* `deepest?_eq_innermostContaining?` — it is the one with the longest way up, also in any forest
  that grows from this one by markers on later lines;
* `ReadInOrder.isTightest` — and its range lies strictly inside the ranges of all others.
-/

namespace ScopeSearch.Forest

variable {f g : Forest} {a b id line : Nat} {span : Span} {m : Marker} {markers : List Marker}

/-! ## Forests from which nothing has been flushed -/

/-- Every scope that has closed still waits. -/
def Unflushed (f : Forest) : Prop :=
  ∀ ⦃id : Nat⦄, id < f.size → id ∈ f.closed.toList ++ f.openStack

theorem unflushed_empty : Unflushed Forest.empty :=
  fun _ hid => absurd hid (Nat.not_lt_zero _)

theorem Unflushed.of_unmarked_eq (hf : f.Unflushed) (hg : g.unmarked = f.unmarked) :
    g.Unflushed := by
  intro id hid
  rw [size_eq_of_unmarked_eq hg] at hid
  rw [closed_eq_of_unmarked_eq hg, openStack_eq_of_unmarked_eq hg]
  exact hf hid

theorem Unflushed.read (hf : f.Unflushed) (m : Marker) : (f.read m).1.Unflushed := by
  rcases f.read_cases m with ⟨-, hread⟩ | ⟨-, hread⟩ | ⟨-, hread, top, outer, s, hstack, -⟩
  · rw [hread]
    intro id hid
    rw [size_openScope] at hid
    show id ∈ f.closed.toList ++ f.size :: f.openStack
    rcases Nat.lt_or_eq_of_le (Nat.le_of_lt_succ hid) with hlt | heq
    · have hold := hf hlt
      rw [List.mem_append] at hold ⊢
      exact hold.imp_right (List.mem_cons_of_mem f.size)
    · simp [heq]
  · rw [hread]
    exact hf
  · rw [hread]
    intro id hid
    rw [size_closeInnermost] at hid
    have hold := hf hid
    rw [hstack] at hold
    simpa [hstack] using hold

theorem Unflushed.apply (hf : f.Unflushed) (markers : List Marker) :
    (f.apply markers).Unflushed :=
  apply_induction (fun _ m hf => hf.read m) hf markers

theorem ReadInOrder.unflushed {next : Nat} (h : ReadInOrder next f) : f.Unflushed := by
  induction h with
  | nothing => exact unflushed_empty
  | line _ text number _ ih => exact ih.apply (Marker.onLine text number)
  | @marking next f _ count id ih => exact ih.of_unmarked_eq (unmarked_mark f count id)

/-! ## Looking for a span -/

theorem lt_size_of_contains (h : f.contains line span id = true) : id < f.size :=
  lt_size_of_any h

theorem contains_iff (line : Nat) (span : Span) (id : Nat) :
    f.contains line span id = true ↔ ∃ s, f.find? id = some s ∧ s.Contains line span := by
  unfold contains
  cases f.find? id <;> simp

/-- Of a scope that contains a span, the end does not stand before the start of another one. -/
theorem not_before_of_contains {s t : Scope} (hspan : span.start ≤ span.stop)
    (hs : s.Contains line span) (ht : t.Contains line span) :
    ¬ ∃ stop ∈ s.report.stop, stop < t.report.start := by
  rintro ⟨stop, hstop, hlt⟩
  obtain ⟨c, hc, rfl⟩ := Option.map_eq_some_iff.1 hstop
  have hstart : t.opener.position ≤ ⟨line, span.start⟩ := ht.1
  have hend : (⟨line, span.stop⟩ : Position) ≤ c.position := hs.2 c hc
  have hbetween : c.position < t.opener.position := hlt
  simp only [Position.lt_def, Position.le_def] at hstart hend hbetween
  omega

/-- Any two scopes around one span are nested. -/
theorem Laminar.nested_of_contains (hl : f.Laminar) (hspan : span.start ≤ span.stop)
    (ha : f.contains line span a = true) (hb : f.contains line span b = true) :
    a = b ∨ f.Ancestor a b ∨ f.Ancestor b a := by
  rcases (contains_iff line span a).1 ha with ⟨s, hs, hsc⟩
  rcases (contains_iff line span b).1 hb with ⟨t, ht, htc⟩
  by_contra hnot
  push Not at hnot
  rcases hnot with ⟨hne, hab, hba⟩
  rcases hl.disjoint hs ht hne hab hba with hbefore | hbefore
  · exact not_before_of_contains hspan hsc htc hbefore
  · exact not_before_of_contains hspan htc hsc hbefore

/-- What contains a span is contained in no scope that does not contain the span. -/
theorem Laminar.contains_of_ancestor (hl : f.Laminar) (hf : f.ParentsOlder) {s t : Scope}
    (hs : f.find? a = some s) (ht : f.find? b = some t) (hab : f.Ancestor a b)
    (htc : t.Contains line span) : s.Contains line span := by
  constructor
  · have hopener := hl.opener_lt hs ht (hab.lt hf)
    have hstart := htc.1
    simp only [Position.lt_def, Position.le_def] at hopener hstart ⊢
    omega
  · intro c hc
    rcases hl.closer_lt_of_ancestor hs ht hab hc with ⟨d, hd, hdc⟩
    have hstop := htc.2 d hd
    simp only [Position.lt_def, Position.le_def] at hdc hstop ⊢
    omega

/-- A scope around one that contains a span contains it as well. -/
theorem Laminar.contains_around (hl : f.Laminar) (hf : f.ParentsOlder) (habove : f.Ancestor a b)
    (hb : f.contains line span b = true) : f.contains line span a = true := by
  rcases (contains_iff line span b).1 hb with ⟨t, ht, htc⟩
  obtain ⟨s, hs⟩ := exists_find? (Nat.lt_trans (habove.lt hf) (lt_size_of_find? ht))
  exact (contains_iff line span a).2 ⟨s, hs, hl.contains_of_ancestor hf hs ht habove htc⟩

/-- No scope is listed before one that is inside it. -/
theorem WellFormed.pairwise_listed (hf : f.WellFormed) :
    (f.closed.toList ++ f.openStack).Pairwise fun earlier later =>
      ¬ f.Ancestor earlier later := by
  rw [List.pairwise_append]
  refine ⟨hf.closed_inner_first, ?_, ?_⟩
  · refine (hf.stacked.pairwise hf.parentsOlder).imp fun hlt hancestor => ?_
    exact Nat.lt_asymm hlt (hancestor.lt hf.parentsOlder)
  · intro a ha b hb hab
    exact hf.not_mem_openStack ha (hf.mem_openStack_of_ancestor hb hab)

/-- No scope is found just if none contains the span. -/
theorem innermostContaining?_eq_none_iff (hu : f.Unflushed) :
    f.innermostContaining? line span = none ↔ ∀ id, f.contains line span id = false := by
  unfold innermostContaining?
  rw [List.find?_eq_none]
  constructor
  · intro h id
    by_contra hid
    rw [Bool.not_eq_false] at hid
    exact h id (hu (lt_size_of_contains hid)) hid
  · intro h id _
    rw [h id]
    exact Bool.false_ne_true

/-- The scope that is found contains the span, and all others that do are around it. -/
theorem innermostContaining?_spec (hf : f.WellFormed) (hl : f.Laminar) (hu : f.Unflushed)
    (hspan : span.start ≤ span.stop) (h : f.innermostContaining? line span = some a) :
    f.contains line span a = true ∧
      ∀ b, f.contains line span b = true → b = a ∨ f.Ancestor b a := by
  rcases List.find?_eq_some_iff_append.1 h with ⟨ha, before, after, hlist, hbefore⟩
  refine ⟨ha, fun b hb => ?_⟩
  rcases hl.nested_of_contains hspan hb ha with heq | hba | hab
  · exact .inl heq
  · exact .inr hba
  · -- a scope inside the one that is found would have been found first
    have hpairs := hf.pairwise_listed
    have hmem := hu (lt_size_of_contains hb)
    rw [hlist] at hpairs hmem
    rcases List.mem_append.1 hmem with hbefore' | hafter
    · have hnot := hbefore b hbefore'
      rw [hb] at hnot
      cases hnot
    · rcases List.mem_cons.1 hafter with heq | hafter
      · exact .inl heq
      · have hnot := (List.pairwise_cons.1 (List.pairwise_append.1 hpairs).2.1).1 b hafter
        exact absurd hab hnot

/-! ## The deepest scope -/

/-- The deepest scope that contains a span: the one with the longest way up. -/
def deepest? (f : Forest) (line : Nat) (span : Span) : Option ScopeId :=
  ((List.range f.size).filter (f.contains line span)).argmax fun id => (f.lineage id).length

/-- The scope that is found before the markers of later lines are read is the deepest one after
that. -/
theorem deepest?_eq_innermostContaining? (hf : f.WellFormed) (hl : f.Laminar) (hu : f.Unflushed)
    (hspan : span.start ≤ span.stop) (hgrown : GrownBy markers f g) (hg : g.ParentsOlder)
    (hlater : ∀ m ∈ markers, line < m.position.line) :
    g.deepest? line span = f.innermostContaining? line span := by
  have hsame := hgrown.contains_eq hlater span
  have hmem : ∀ id, id ∈ (List.range g.size).filter (g.contains line span) ↔
      f.contains line span id = true := by
    intro id
    rw [List.mem_filter, List.mem_range, hsame]
    refine and_iff_right_of_imp fun h => ?_
    exact Nat.lt_of_lt_of_le (lt_size_of_contains h) hgrown.size_le
  unfold deepest?
  cases hfound : f.innermostContaining? line span with
  | none =>
    rw [List.argmax_eq_none, List.eq_nil_iff_forall_not_mem]
    intro id hid
    rw [hmem, (innermostContaining?_eq_none_iff hu).1 hfound id] at hid
    cases hid
  | some a =>
    rcases innermostContaining?_spec hf hl hu hspan hfound with ⟨ha, hothers⟩
    have hlength : ∀ b, f.contains line span b = true → b = a ∨
        (g.lineage b).length < (g.lineage a).length := by
      intro b hb
      refine (hothers b hb).imp_right fun hba => ?_
      rw [hgrown.lineage_eq hf.parentsOlder hg (lt_size_of_contains hb),
        hgrown.lineage_eq hf.parentsOlder hg (lt_size_of_contains ha)]
      exact hba.length_lineage_lt hf.parentsOlder
    rw [List.argmax_eq_some_iff]
    refine ⟨(hmem a).2 ha, fun b hb => ?_, fun b hb hle => ?_⟩
    · rcases hlength b ((hmem b).1 hb) with rfl | hlt
      · exact Nat.le_refl _
      · exact Nat.le_of_lt hlt
    · rcases hlength b ((hmem b).1 hb) with rfl | hlt
      · exact Nat.le_refl _
      · exact absurd hle (Nat.not_le.2 hlt)

/-! ## Tightest ranges -/

/-- The scope contains the span, and its range lies strictly inside that of every other scope that
does. -/
structure IsTightest (f : Forest) (line : Nat) (span : Span) (id : ScopeId) (s : Scope) : Prop where
  found : f.find? id = some s
  contains : s.Contains line span
  inside : ∀ ⦃other : Nat⦄ ⦃t⦄, f.find? other = some t → t.Contains line span →
    other = id ∨ t.report.StrictlyContains s.report

section ReadInOrder

variable {next : Nat} (h : ReadInOrder next f) (hspan : span.start ≤ span.stop)
include h hspan

/-- Once all lines have been read, the deepest scope is the one that is found. -/
theorem ReadInOrder.deepest?_eq (line : Nat) :
    f.deepest? line span = f.innermostContaining? line span := by
  rcases h.laminar with ⟨hwf, hl, -⟩
  exact deepest?_eq_innermostContaining? hwf hl h.unflushed hspan (grownBy_refl f) hwf.parentsOlder
    fun m hm => absurd hm List.not_mem_nil

/-- If any scope contains the span, there is a deepest one. -/
theorem ReadInOrder.exists_deepest (ha : f.contains line span a = true) :
    ∃ b, f.deepest? line span = some b := by
  rw [h.deepest?_eq hspan]
  by_contra hnone
  have hfound : f.innermostContaining? line span = none := by
    rw [Option.eq_none_iff_forall_ne_some]
    exact fun b hb => hnone ⟨b, hb⟩
  rw [(innermostContaining?_eq_none_iff h.unflushed).1 hfound a] at ha
  cases ha

/-- The deepest scope is the tightest one. -/
theorem ReadInOrder.isTightest (ha : f.deepest? line span = some a) :
    ∃ s, f.IsTightest line span a s := by
  rcases h.laminar with ⟨hwf, hl, -⟩
  rw [h.deepest?_eq hspan] at ha
  rcases innermostContaining?_spec hwf hl h.unflushed hspan ha with ⟨hcontains, hothers⟩
  rcases (contains_iff line span a).1 hcontains with ⟨s, hs, hsc⟩
  refine ⟨s, hs, hsc, ?_⟩
  intro b t ht htc
  have hb : f.contains line span b = true := (contains_iff line span b).2 ⟨t, ht, htc⟩
  exact (hothers b hb).imp_right (hl.strictlyContains_iff hwf.parentsOlder ht hs).2

end ReadInOrder

end ScopeSearch.Forest
