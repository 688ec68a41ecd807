/-!
# ScopeSearch.Position — places in the input

A place is a line number and a byte column, both counted from zero, and places are ordered as
they are read: by line, then by column.
-/

namespace ScopeSearch

/-- A place in the input: a line, counted from zero, and a byte column on it, counted from zero. -/
structure Position where
  line : Nat
  column : Nat
deriving DecidableEq, Repr

namespace Position

/-- Where the input begins. -/
def origin : Position := ⟨0, 0⟩

instance : Inhabited Position := ⟨origin⟩

/-- An earlier line comes first; on one line, an earlier column. -/
instance : LT Position where
  lt p q := p.line < q.line ∨ (p.line = q.line ∧ p.column < q.column)

/-- Nothing that is read later comes first. -/
instance : LE Position where
  le p q := p.line < q.line ∨ (p.line = q.line ∧ p.column ≤ q.column)

theorem lt_def {p q : Position} :
    p < q ↔ p.line < q.line ∨ (p.line = q.line ∧ p.column < q.column) := Iff.rfl

theorem le_def {p q : Position} :
    p ≤ q ↔ p.line < q.line ∨ (p.line = q.line ∧ p.column ≤ q.column) := Iff.rfl

instance (p q : Position) : Decidable (p < q) :=
  inferInstanceAs (Decidable (_ ∨ _))

instance (p q : Position) : Decidable (p ≤ q) :=
  inferInstanceAs (Decidable (_ ∨ _))

theorem lt_irrefl (p : Position) : ¬ p < p := by
  simp [lt_def]

theorem lt_trans {p q r : Position} (hpq : p < q) (hqr : q < r) : p < r := by
  rw [lt_def] at *
  omega

theorem not_le {p q : Position} : ¬ p ≤ q ↔ q < p := by
  rw [lt_def, le_def]
  omega

theorem le_iff_lt_or_eq {p q : Position} : p ≤ q ↔ p < q ∨ p = q := by
  rcases p with ⟨l, c⟩
  rcases q with ⟨l', c'⟩
  simp only [lt_def, le_def, mk.injEq]
  omega

/-- Which of two places is read first. -/
instance : Ord Position where
  compare p q := (compare p.line q.line).then (compare p.column q.column)

/-- A place as it is printed: line and column in decimal, a colon between them. -/
def text (p : Position) : String :=
  p.line.repr ++ ":" ++ p.column.repr

end Position

end ScopeSearch
