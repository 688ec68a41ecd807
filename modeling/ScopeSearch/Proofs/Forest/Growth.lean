import ScopeSearch.Proofs.Forest.Geometry

/-!
# ScopeSearch.Proofs.Forest.Growth — what later markers can change

Reading markers adds scopes and closes open ones, and changes nothing else: `GrownBy markers f g`
says so of a forest `f` and a later one `g`.

* `grownBy_apply` — reading markers makes a forest grow by them;
* `GrownBy.contains_eq` — markers on later lines do not change which scopes contain a span;
* `GrownBy.lineage_eq` — the scopes around a scope stay what they were when it opened.
-/

namespace ScopeSearch.Forest

variable {f g k : Forest} {id top : Nat} {s t : Scope} {m : Marker} {markers later : List Marker}

/-- The forest `g` is `f` with scopes opened and closed by some of the markers. -/
structure GrownBy (markers : List Marker) (f g : Forest) : Prop where
  size_le : f.size ≤ g.size
  /-- A scope stays where it is. -/
  parent?_eq : ∀ ⦃id : Nat⦄, id < f.size → g.parent? id = f.parent? id
  /-- A scope keeps its opener, and its closer once it has one. -/
  old : ∀ ⦃id : Nat⦄ ⦃s t⦄, f.find? id = some s → g.find? id = some t → t.opener = s.opener ∧
    (t.closer = s.closer ∨ s.closer = none ∧ ∃ m ∈ markers, t.closer = some m)
  /-- A new scope has one of the markers as its opener. -/
  new : ∀ ⦃id : Nat⦄ ⦃t⦄, f.size ≤ id → g.find? id = some t → t.opener ∈ markers

theorem grownBy_refl (f : Forest) : GrownBy [] f f where
  size_le := Nat.le_refl f.size
  parent?_eq := fun _ _ => rfl
  old := by
    intro id s t hs ht
    rw [Option.some.inj (hs.symm.trans ht)]
    exact ⟨rfl, .inl rfl⟩
  new := by
    intro id t hid ht
    exact absurd (lt_size_of_find? ht) (Nat.not_lt.2 hid)

theorem GrownBy.trans (hfg : GrownBy markers f g) (hgk : GrownBy later g k) :
    GrownBy (markers ++ later) f k := by
  constructor
  case size_le => exact Nat.le_trans hfg.size_le hgk.size_le
  case parent?_eq =>
    intro id hid
    rw [hgk.parent?_eq (Nat.lt_of_lt_of_le hid hfg.size_le), hfg.parent?_eq hid]
  case old =>
    intro id s u hs hu
    have hid := Nat.lt_of_lt_of_le (lt_size_of_find? hs) hfg.size_le
    obtain ⟨t, ht⟩ := exists_find? hid
    rcases hfg.old hs ht with ⟨hopener, hcloser⟩
    rcases hgk.old ht hu with ⟨hopener', hcloser'⟩
    refine ⟨hopener'.trans hopener, ?_⟩
    rcases hcloser' with hsame' | ⟨hopen, m, hm, hclosed⟩
    · rcases hcloser with hsame | ⟨hopen, m, hm, hclosed⟩
      · exact .inl (hsame'.trans hsame)
      · exact .inr ⟨hopen, m, List.mem_append_left later hm, hsame'.trans hclosed⟩
    · rcases hcloser with hsame | ⟨-, m', -, hclosed'⟩
      · exact .inr ⟨hsame ▸ hopen, m, List.mem_append_right markers hm, hclosed⟩
      · rw [hopen] at hclosed'
        cases hclosed'
  case new =>
    intro id u hid hu
    rcases Nat.lt_or_ge id g.size with hlt | hge
    · obtain ⟨t, ht⟩ := exists_find? hlt
      rw [(hgk.old ht hu).1]
      exact List.mem_append_left later (hfg.new hid ht)
    · exact List.mem_append_right markers (hgk.new hge hu)

/-- What some markers can do, more markers can do. -/
theorem GrownBy.mono (h : GrownBy markers f g) (hsub : markers ⊆ later) : GrownBy later f g where
  size_le := h.size_le
  parent?_eq := h.parent?_eq
  old := by
    intro id s t hs ht
    rcases h.old hs ht with ⟨hopener, hsame | ⟨hopen, m, hm, hclosed⟩⟩
    · exact ⟨hopener, .inl hsame⟩
    · exact ⟨hopener, .inr ⟨hopen, m, hsub hm, hclosed⟩⟩
  new := fun _ _ hid ht => hsub (h.new hid ht)

theorem grownBy_openScope (f : Forest) (m : Marker) : GrownBy [m] f (f.openScope m) := by
  constructor
  case size_le =>
    rw [size_openScope]
    exact Nat.le_succ f.size
  case parent?_eq => exact fun _ hid => parent?_openScope_of_lt m hid
  case old =>
    intro id s t hs ht
    have hid := lt_size_of_find? hs
    rcases find?_openScope_cases ht with ⟨hnew, -, -⟩ | ⟨-, s', hs', hopener, hcloser⟩
    · omega
    · rw [Option.some.inj (hs.symm.trans hs')]
      exact ⟨hopener, .inl hcloser⟩
  case new =>
    intro id t hid ht
    rcases find?_openScope_cases ht with ⟨-, hopener, -⟩ | ⟨hlt, -⟩
    · rw [hopener]
      exact List.mem_singleton_self m
    · omega

theorem grownBy_closeInnermost (hf : f.WellFormed) (m : Marker) {outer : List ScopeId}
    (hstack : f.openStack = top :: outer) : GrownBy [m] f (f.closeInnermost m) := by
  have htop : top ∈ f.openStack := by simp [hstack]
  constructor
  case size_le => exact Nat.le_of_eq (size_closeInnermost f m).symm
  case parent?_eq =>
    intro id _
    rw [parent?_closeInnermost]
  case old =>
    intro id s t hs ht
    rcases find?_closeInnermost_cases hstack ht with ⟨s', hs', hopener, hcloser⟩
    rw [← Option.some.inj (hs.symm.trans hs')] at hopener hcloser
    refine ⟨hopener, ?_⟩
    rcases hcloser with ⟨rfl, hclosed⟩ | ⟨-, hsame⟩
    · exact .inr ⟨(hf.closer_eq_none_iff hs).2 htop, m, List.mem_singleton_self m, hclosed⟩
    · exact .inl hsame
  case new =>
    intro id t hid ht
    have hlt := lt_size_of_find? ht
    rw [size_closeInnermost] at hlt
    omega

theorem grownBy_read (hf : f.WellFormed) (m : Marker) : GrownBy [m] f (f.read m).1 := by
  rcases f.read_cases m with ⟨-, hread⟩ | ⟨-, hread⟩ | ⟨-, hread, top, outer, s, hstack, -⟩
  · rw [hread]
    exact grownBy_openScope f m
  · rw [hread]
    exact (grownBy_refl f).mono (List.nil_subset [m])
  · rw [hread]
    exact grownBy_closeInnermost hf m hstack

/-- Reading markers makes a forest grow by them. -/
theorem grownBy_apply (hf : f.WellFormed) (markers : List Marker) :
    GrownBy markers f (f.apply markers) := by
  induction markers generalizing f with
  | nil => exact grownBy_refl f
  | cons m rest ih => exact (grownBy_read hf m).trans (ih (hf.read m))

namespace GrownBy

theorem contains_eq_old {line : Nat} {span : Span} (h : GrownBy markers f g)
    (hlater : ∀ m ∈ markers, line < m.position.line) (hs : f.find? id = some s)
    (ht : g.find? id = some t) : t.Contains line span ↔ s.Contains line span := by
  rcases h.old hs ht with ⟨hopener, hcloser⟩
  unfold Scope.Contains
  rw [hopener]
  rcases hcloser with hsame | ⟨hopen, m, hm, hclosed⟩
  · rw [hsame]
  · -- a closer on a later line stands after every span on this one
    have hafter : (⟨line, span.stop⟩ : Position) ≤ m.position := .inl (hlater m hm)
    rw [hopen, hclosed]
    simp [hafter]

/-- Markers on later lines do not change which scopes contain a span. -/
theorem contains_eq {line : Nat} (h : GrownBy markers f g)
    (hlater : ∀ m ∈ markers, line < m.position.line) (span : Span) :
    g.contains line span = f.contains line span := by
  funext id
  unfold contains
  cases hs : f.find? id with
  | some s =>
    have hid := Nat.lt_of_lt_of_le (lt_size_of_find? hs) h.size_le
    obtain ⟨t, ht⟩ := exists_find? hid
    rw [ht]
    simp [h.contains_eq_old hlater hs ht]
  | none =>
    cases ht : g.find? id with
    | none => rfl
    | some t =>
      -- a scope that opens on a later line opens after every span on this one
      have hid : f.size ≤ id := by simpa [find?, size] using hs
      have hline := hlater _ (h.new hid ht)
      have hnot : ¬ t.Contains line span := by
        rintro ⟨hle, -⟩
        rcases Position.le_def.1 hle with hlt | ⟨heq, -⟩
        · exact Nat.lt_asymm hlt hline
        · exact Nat.ne_of_gt hline heq
      simp [hnot]

/-- What is around a scope stays around it. -/
theorem ancestor (h : GrownBy markers f g) {a b : Nat} (hab : f.Ancestor a b) : g.Ancestor a b := by
  have hparents : (fun p c => f.parent? c = some p) ≤ fun p c => g.parent? c = some p := by
    intro p c hp
    rw [h.parent?_eq (lt_size_of_parent? hp)]
    exact hp
  exact Relation.TransGen.mono hparents a b hab

/-- The scopes around a scope stay what they were. -/
theorem lineage_eq (h : GrownBy markers f g) (hf : f.ParentsOlder) (hg : g.ParentsOlder)
    (hid : id < f.size) : g.lineage id = f.lineage id :=
  lineage_congr hf hg hid h.size_le fun c hc => h.parent?_eq (by omega)

end GrownBy

end ScopeSearch.Forest
