import ScopeSearch.Proofs.Report.Nesting

/-!
# ScopeSearch.Proofs.Report.Violation — the first fault of a list of ranges

`Report.violation?` looks through a list for a range that ends too early, or for two that are
nested. `Offends` says where such a fault is, and `FirstOffence` which of all faults comes first.

* `StrictlyContains.irrefl`, `StrictlyContains.asymm`, `StrictlyContains.trans` — nesting is a
  strict order on all ranges, also on those without an end and on those that end too early;
* `FirstOffence.of_cons` — the first fault of a list whose first range is without fault is that of
  the others;
* `violation?_eq_some_iff` — the answer is the first fault;
* `violation?_eq_none_congr` — in which order the ranges stand does not matter to whether there is
  one.
-/

namespace ScopeSearch.Report

variable {a b c r : Report} {reports rest : List Report} {i j k l : Nat}

/-! ## Nesting as an order -/

/-- A range that stops before one that stops before a third stops before the third. -/
theorem StopsBefore.trans {p q s : Option Position} (hpq : StopsBefore p q)
    (hqs : StopsBefore q s) : StopsBefore p s := by
  cases s with
  | none => exact trivial
  | some s =>
    -- only what has an end stops before something that has one
    cases q with
    | none => exact hqs.elim
    | some q =>
      cases p with
      | none => exact hpq.elim
      | some p => exact Position.lt_trans hpq hqs

namespace StrictlyContains

theorem irrefl (a : Report) : ¬ a.StrictlyContains a :=
  fun h => Position.lt_irrefl a.start h.1

theorem trans (hab : a.StrictlyContains b) (hbc : b.StrictlyContains c) : a.StrictlyContains c :=
  ⟨Position.lt_trans hab.1 hbc.1, hbc.2.trans hab.2⟩

theorem asymm (hab : a.StrictlyContains b) : ¬ b.StrictlyContains a :=
  fun hba => irrefl a (hab.trans hba)

end StrictlyContains

theorem Nested.symm (h : a.Nested b) : b.Nested a :=
  Or.symm h

/-! ## Faults and their places -/

/-- The ranges at two places are a fault: one range, at one place, that ends too early, or two that
are nested, the one that stands first before the other. -/
def Offends (reports : List Report) (i j : Nat) : Prop :=
  ∃ a b, reports[i]? = some a ∧ reports[j]? = some b ∧
    (i = j ∧ a.EndsTooEarly ∨ i < j ∧ a.Nested b)

/-- No fault comes before this one, by the place of its first range and then of its second. -/
structure FirstOffence (reports : List Report) (i j : Nat) : Prop where
  offends : Offends reports i j
  le_of_offends : ∀ ⦃k l⦄, Offends reports k l → i < k ∨ i = k ∧ j ≤ l

theorem FirstOffence.unique (h : FirstOffence reports i j) (h' : FirstOffence reports k l) :
    i = k ∧ j = l := by
  have hle := h.le_of_offends h'.offends
  have hge := h'.le_of_offends h.offends
  omega

/-- The first range of a list is at fault if it ends too early, or together with one behind it. -/
theorem offends_cons_zero : Offends (r :: rest) 0 j ↔
    j = 0 ∧ r.EndsTooEarly ∨ ∃ l b, j = l + 1 ∧ rest[l]? = some b ∧ r.Nested b := by
  cases j with
  | zero => simp [Offends]
  | succ l => simp [Offends]

/-- The faults among the ranges behind the first are those of the rest. -/
theorem offends_cons_succ : Offends (r :: rest) (i + 1) j ↔ ∃ l, j = l + 1 ∧ Offends rest i l := by
  cases j with
  | zero => simp [Offends]
  | succ l => simp [Offends]

/-- A range without fault leaves the first fault to the ranges behind it. -/
theorem FirstOffence.of_cons (hearly : ¬ r.EndsTooEarly) (hnested : ∀ b ∈ rest, ¬ r.Nested b)
    (h : FirstOffence rest i j) : FirstOffence (r :: rest) (i + 1) (j + 1) where
  offends := offends_cons_succ.2 ⟨j, rfl, h.offends⟩
  le_of_offends := by
    intro k l hkl
    cases k with
    | zero =>
      rcases offends_cons_zero.1 hkl with ⟨-, hr⟩ | ⟨l, b, -, hb, hrb⟩
      · exact absurd hr hearly
      · exact absurd hrb (hnested b (List.mem_of_getElem? hb))
    | succ k =>
      obtain ⟨l, rfl, hrest⟩ := offends_cons_succ.1 hkl
      have hle := h.le_of_offends hrest
      omega

/-! ## The answer -/

/-- What is found is the first fault. -/
theorem exists_firstOffence (h : violation? reports = some (a, b)) :
    ∃ i j, FirstOffence reports i j ∧ reports[i]? = some a ∧ reports[j]? = some b := by
  induction reports with
  | nil => cases h
  | cons r rest ih =>
    unfold violation? at h
    by_cases hearly : r.EndsTooEarly
    · rw [if_pos hearly] at h
      cases h
      refine ⟨0, 0, ⟨offends_cons_zero.2 (.inl ⟨rfl, hearly⟩), ?_⟩, rfl, rfl⟩
      intro k l _
      omega
    · rw [if_neg hearly] at h
      cases hfound : rest.find? fun other => r.Nested other with
      | some other =>
        rw [hfound] at h
        cases h
        rcases List.find?_eq_some_iff_getElem.1 hfound with ⟨hnested, n, hn, hother, hbefore⟩
        have hget : rest[n]? = some b := by rw [List.getElem?_eq_getElem hn, hother]
        refine ⟨0, n + 1, ⟨?_, ?_⟩, rfl, hget⟩
        · exact offends_cons_zero.2 (.inr ⟨n, b, rfl, hget, of_decide_eq_true hnested⟩)
        · -- the search has passed over no range that is nested with the first one
          intro k l hkl
          cases k with
          | succ k => omega
          | zero =>
            rcases offends_cons_zero.1 hkl with ⟨-, hr⟩ | ⟨m, c, rfl, hc, hrc⟩
            · exact absurd hr hearly
            · refine .inr ⟨rfl, Nat.succ_le_succ (Nat.not_lt.1 fun hm => ?_)⟩
              obtain ⟨hlt, rfl⟩ := List.getElem?_eq_some_iff.1 hc
              have hpassed := hbefore m hm
              simp [hrc] at hpassed
      | none =>
        rw [hfound] at h
        have hnested : ∀ b ∈ rest, ¬ r.Nested b := by simpa using hfound
        rcases ih h with ⟨i, j, hfirst, ha, hb⟩
        exact ⟨i + 1, j + 1, hfirst.of_cons hearly hnested, ha, hb⟩

/-- Where there is a fault, one is found. -/
theorem Offends.violation?_ne_none (h : Offends reports i j) : violation? reports ≠ none := by
  intro hnone
  rcases violation?_eq_none_iff.1 hnone with ⟨hends, hpairs⟩
  rcases h with ⟨a, b, ha, hb, ⟨-, hearly⟩ | ⟨hlt, hnested⟩⟩
  · exact not_endsTooEarly_iff.2 (hends a (List.mem_of_getElem? ha)) hearly
  · obtain ⟨hi, rfl⟩ := List.getElem?_eq_some_iff.1 ha
    obtain ⟨hj, rfl⟩ := List.getElem?_eq_some_iff.1 hb
    exact List.pairwise_iff_getElem.1 hpairs i j hi hj hlt hnested

theorem violation?_eq_some_iff : violation? reports = some (a, b) ↔
    ∃ i j, FirstOffence reports i j ∧ reports[i]? = some a ∧ reports[j]? = some b := by
  constructor
  · exact exists_firstOffence
  · rintro ⟨i, j, hfirst, ha, hb⟩
    obtain ⟨⟨a', b'⟩, hfound⟩ := Option.ne_none_iff_exists'.1 hfirst.offends.violation?_ne_none
    rcases exists_firstOffence hfound with ⟨k, l, hfirst', ha', hb'⟩
    obtain ⟨rfl, rfl⟩ := hfirst.unique hfirst'
    obtain rfl : a = a' := Option.some.inj (ha.symm.trans ha')
    obtain rfl : b = b' := Option.some.inj (hb.symm.trans hb')
    exact hfound

/-- Lists of the same ranges both have a fault or both have none. -/
theorem violation?_eq_none_congr {other : List Report} (h : reports.Perm other) :
    violation? reports = none ↔ violation? other = none := by
  rw [violation?_eq_none_iff, violation?_eq_none_iff]
  refine and_congr ?_ (h.pairwise_iff fun hab hba => hab hba.symm)
  simp only [h.mem_iff]

/-- There is no violation in a list just if each of its ranges that has an end ends after it begins
and no two are nested, and else the first fault is the violation. In which order the ranges stand
does not matter to whether there is one. Nesting is irreflexive, asymmetric and transitive. -/
theorem violation_is_first_offence (reports : List Report) :
    (violation? reports = none ↔
      (∀ r ∈ reports, r.EndsAfterStart) ∧ reports.Pairwise fun a b => ¬ a.Nested b) ∧
    (∀ a b, violation? reports = some (a, b) ↔
      ∃ i j, FirstOffence reports i j ∧ reports[i]? = some a ∧ reports[j]? = some b) ∧
    (∀ other, reports.Perm other → (violation? reports = none ↔ violation? other = none)) ∧
    (∀ a : Report, ¬ a.StrictlyContains a) ∧
    (∀ a b : Report, a.StrictlyContains b → ¬ b.StrictlyContains a) ∧
    ∀ a b c : Report, a.StrictlyContains b → b.StrictlyContains c → a.StrictlyContains c :=
  ⟨violation?_eq_none_iff, fun _ _ => violation?_eq_some_iff,
    fun _ h => violation?_eq_none_congr h, StrictlyContains.irrefl, fun _ _ hab => hab.asymm,
    fun _ _ _ hab hbc => hab.trans hbc⟩

/-- A range that ends too early stands behind one that contains it: the two are the first fault, and
not the one range by itself. In reverse order there is a fault as well. A range without an end
contains the outer one, and so the inner one too. -/
theorem violation_is_first_offence_before_malformed :
    let outer : Report := ⟨⟨0, 1⟩, some ⟨0, 9⟩⟩
    let malformed : Report := ⟨⟨0, 5⟩, some ⟨0, 2⟩⟩
    let endless : Report := ⟨⟨0, 0⟩, none⟩
    let reports := [outer, malformed, endless]
    (∃ i j, FirstOffence reports i j ∧ reports[i]? = some outer ∧ reports[j]? = some malformed) ∧
      reports.Perm reports.reverse ∧ violation? reports.reverse ≠ none ∧
      (endless.StrictlyContains outer ∧ outer.StrictlyContains malformed) ∧
      endless.StrictlyContains malformed := by
  intro outer malformed endless reports
  rcases violation_is_first_offence reports with ⟨-, hfirst, hperm, -, -, htrans⟩
  have hfound : violation? reports = some (outer, malformed) := by decide
  have hreverse : reports.Perm reports.reverse := (List.reverse_perm reports).symm
  have houter : endless.StrictlyContains outer := by decide
  have hinner : outer.StrictlyContains malformed := by decide
  refine ⟨(hfirst outer malformed).1 hfound, hreverse, ?_, ⟨houter, hinner⟩,
    htrans endless outer malformed houter hinner⟩
  rw [ne_eq, ← hperm reports.reverse hreverse, hfound]
  exact Option.some_ne_none _

end ScopeSearch.Report
