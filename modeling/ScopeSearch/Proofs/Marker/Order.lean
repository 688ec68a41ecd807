import ScopeSearch.Marker

/-!
# ScopeSearch.Proofs.Marker.Order — the order of the markers on a line

The markers of a line bear its number (`line_of_mem_onLine`) and stand in it from left to right, no
two at one place (`pairwise_onLine`), however delimiters overlap.
-/

namespace ScopeSearch.Marker

/-- What is found from a column on bears the line's number and stands at that column or later. -/
theorem position_of_mem_fromColumn {number column : Nat} {text : Bytes} {m : Marker}
    (hm : m ∈ fromColumn number column text) :
    m.position.line = number ∧ column ≤ m.position.column := by
  induction text generalizing column with
  | nil => cases hm
  | cons b rest ih =>
    have hlater : m ∈ fromColumn number (column + 1) rest →
        m.position.line = number ∧ column ≤ m.position.column := by
      intro hm
      rcases ih hm with ⟨hline, hcolumn⟩
      exact ⟨hline, by omega⟩
    unfold fromColumn at hm
    cases hd : headDelimiter? (b :: rest) with
    | none =>
      rw [hd] at hm
      exact hlater hm
    | some d =>
      rw [hd] at hm
      rcases List.mem_cons.1 hm with rfl | hm
      · exact ⟨rfl, Nat.le_refl column⟩
      · exact hlater hm

theorem pairwise_fromColumn (number column : Nat) (text : Bytes) :
    (fromColumn number column text).Pairwise fun a b => a.position < b.position := by
  induction text generalizing column with
  | nil => exact .nil
  | cons b rest ih =>
    unfold fromColumn
    cases headDelimiter? (b :: rest) with
    | none => exact ih (column + 1)
    | some d =>
      refine .cons (fun m hm => ?_) (ih (column + 1))
      rcases position_of_mem_fromColumn hm with ⟨hline, hcolumn⟩
      exact .inr ⟨hline.symm, hcolumn⟩

/-- The markers of a line bear the line's number. -/
theorem line_of_mem_onLine {text : Bytes} {number : Nat} {m : Marker}
    (hm : m ∈ onLine text number) : m.position.line = number :=
  (position_of_mem_fromColumn hm).1

/-- The markers of a line stand from left to right. -/
theorem pairwise_onLine (text : Bytes) (number : Nat) :
    (onLine text number).Pairwise fun a b => a.position < b.position :=
  pairwise_fromColumn number 0 text

end ScopeSearch.Marker
