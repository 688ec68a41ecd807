import ScopeSearch.Proofs.Forest.Growth
import ScopeSearch.Proofs.Forest.Lookup

/-!
# ScopeSearch.Proofs.Forest.Commuting — the order of marks does not matter

A search marks scopes while others still open and close. Which marks a forest bears in the end does
not depend on when they were set:

* `eq_of_unmarked_eq` — a forest is known by its scopes without their marks, and by the marks;
* `mark_comm` — two ways up may be marked in any order;
* `mark_mark` — marking a way up again changes nothing;
* `mark_apply` — a way up may be marked before or after markers are read;
* `marking_commutes` — all of this for every forest that operations lead to, where no scope that is
  looked up on the way is missing.
-/

namespace ScopeSearch.Forest

variable {f g : Forest} {id i j : Nat}

/-! ## What marking visits -/

/-- A forest is known by its scopes without their marks, and by the marks. -/
theorem eq_of_unmarked_eq (hsame : g.unmarked = f.unmarked)
    (hmarks : ∀ id, g.isMatched id = f.isMatched id) : g = f := by
  refine ext_find? (fun id => ?_) (openStack_eq_of_unmarked_eq hsame)
    (closed_eq_of_unmarked_eq hsame)
  have hscope : (g.find? id).map Scope.unmarked = (f.find? id).map Scope.unmarked := by
    rw [← find?_unmarked, hsame, find?_unmarked]
  have hmark := hmarks id
  unfold isMatched at hmark
  cases hs : f.find? id with
  | none =>
    rw [hs] at hscope
    exact Option.map_eq_none_iff.1 hscope
  | some s =>
    rw [hs] at hscope hmark
    obtain ⟨t, ht, hst⟩ := Option.map_eq_some_iff.1 hscope
    rw [ht, Option.any_some, Option.any_some] at hmark
    rw [ht]
    -- the two scopes agree without their marks and in their marks
    rcases s with ⟨parent, children, opener, closer, matched⟩
    rcases t with ⟨parent', children', opener', closer', matched'⟩
    cases hmark
    cases hst
    rfl

/-- Marks do not change what is on a way up. -/
theorem wayUp_mark (f : Forest) (n : Nat) (id : ScopeId) : (f.mark n id).1.wayUp = f.wayUp := by
  funext m a
  rw [← wayUp_unmarked, unmarked_mark, wayUp_unmarked]

/-- Marking visits the scopes on its way up. -/
theorem visited_mark (f : Forest) (n : Nat) (id : ScopeId) :
    (f.mark n id).2 = (f.wayUp n id).length := by
  induction n generalizing f id with
  | zero => rfl
  | succ n ih =>
    cases hs : f.find? id with
    | none => simp [mark, wayUp, hs]
    | some s =>
      cases hp : s.parent with
      | none => simp [mark, wayUp, hs, hp]
      | some p => simp only [mark, wayUp, hs, hp, ih, wayUp_modify_matched, List.length_cons]

/-- Reading markers does not change what is on the way up from a scope. -/
theorem wayUp_apply (hf : f.WellFormed) (hid : id < f.size) (n : Nat) (markers : List Marker) :
    (f.apply markers).wayUp n id = f.wayUp n id := by
  have hgrown := grownBy_apply hf markers
  have hafter : (f.apply markers).ParentsOlder := (hf.apply markers).parentsOlder
  rw [← take_lineage hafter, ← take_lineage hf.parentsOlder,
    hgrown.lineage_eq hf.parentsOlder hafter hid]

/-! ## Marking and marking -/

/-- Two ways up may be marked in any order, and each marking visits what it visits alone. -/
theorem mark_comm (f : Forest) (c d : Nat) (i j : ScopeId) :
    (f.mark c i).1.mark d j = (((f.mark d j).1.mark c i).1, (f.mark d j).2) := by
  refine Prod.ext (eq_of_unmarked_eq ?_ fun a => ?_) ?_
  · simp only [unmarked_mark]
  · simp only [isMatched_mark, wayUp_mark]
    exact Bool.or_right_comm _ _ _
  · simp only [visited_mark, wayUp_mark]

/-- Marking a way up again changes nothing. -/
theorem mark_mark (f : Forest) (n : Nat) (id : ScopeId) :
    (f.mark n id).1.mark n id = f.mark n id := by
  refine Prod.ext (eq_of_unmarked_eq ?_ fun a => ?_) ?_
  · rw [unmarked_mark]
  · rw [isMatched_mark, wayUp_mark, isMatched_mark, Bool.or_assoc, Bool.or_self]
  · rw [visited_mark, wayUp_mark, visited_mark]

/-! ## Marking and reading -/

/-- A way up may be marked before or after markers are read, and the marking visits the same. -/
theorem mark_apply (hf : f.WellFormed) (hid : id < f.size) (n : Nat) (markers : List Marker) :
    (f.apply markers).mark n id = ((f.mark n id).1.apply markers, (f.mark n id).2) := by
  refine Prod.ext (eq_of_unmarked_eq ?_ fun a => ?_) ?_
  · rw [unmarked_mark, unmarked_apply, unmarked_apply, unmarked_mark]
  · rw [isMatched_mark, isMatched_apply, isMatched_apply, isMatched_mark, wayUp_apply hf hid]
  · rw [visited_mark, visited_mark, wayUp_apply hf hid]

/-! ## Forests that operations lead to -/

/-- Marks may be set in any order, also before and after markers are read. Whatever operations have
led to a forest, of two ways up from scopes of it either may be marked first; one may be marked
before markers are read or after them, and the same closers are ignored; and it may be marked again.
Each time the forest comes out the same, and marking visits as many scopes. No scope that is looked
up is missing, in either order. -/
theorem marking_commutes (operations : List Operation) (markers : List Marker) (c d : Nat)
    (hi : i < (Forest.empty.performAll operations).size)
    (hj : j < (Forest.empty.performAll operations).size) :
    let f := Forest.empty.performAll operations
    let grown := f.apply markers
    let (one, n) := f.mark c i
    let (other, m) := f.mark d j
    (∃ both, one.mark d j = (both, m) ∧ other.mark c i = (both, n)) ∧
    (grown.mark c i = (one.apply markers, n) ∧ one.strays markers = f.strays markers) ∧
    one.mark c i = (one, n) ∧
    (∀ g ∈ [f, one, other, grown], ∀ count, ∀ id ∈ [i, j],
      Strict.mark g count id = .ok (g.mark count id)) ∧
    ∀ g ∈ [f, one], Strict.apply g markers = .ok (g.apply markers) := by
  intro f grown
  let one := (f.mark c i).1
  let other := (f.mark d j).1
  have hf : f.WellFormed := wellFormed_performAll operations
  have hone : one.WellFormed := hf.mark c i
  have hother : other.WellFormed := hf.mark d j
  have hgrown : grown.WellFormed := hf.apply markers
  have honesize : one.size = f.size := size_eq_of_unmarked_eq (unmarked_mark f c i)
  have hothersize : other.size = f.size := size_eq_of_unmarked_eq (unmarked_mark f d j)
  have hgrownsize : f.size ≤ grown.size := (grownBy_apply hf markers).size_le
  have hvisited : (other.mark c i).2 = (f.mark c i).2 := by
    show ((f.mark d j).1.mark c i).2 = (f.mark c i).2
    rw [mark_comm f d c j i]
  -- a forest that has all scopes of `f` has the two that are marked
  have hfound : ∀ {g : Forest}, g.WellFormed → f.size ≤ g.size → ∀ count, ∀ id ∈ [i, j],
      Strict.mark g count id = .ok (g.mark count id) := by
    intro g hg hsize count
    rw [List.forall_mem_cons, List.forall_mem_singleton]
    exact ⟨Strict.mark_eq_of_lt hg.parentsOlder count (Nat.lt_of_lt_of_le hi hsize),
      Strict.mark_eq_of_lt hg.parentsOlder count (Nat.lt_of_lt_of_le hj hsize)⟩
  refine ⟨⟨(other.mark c i).1, mark_comm f c d i j, Prod.ext rfl hvisited⟩,
    ⟨mark_apply hf hi c markers, strays_eq_of_unmarked_eq (unmarked_mark f c i) markers⟩,
    mark_mark f c i, ?_, ?_⟩
  · rw [List.forall_mem_cons, List.forall_mem_cons, List.forall_mem_cons,
      List.forall_mem_singleton]
    exact ⟨hfound hf (Nat.le_refl _), hfound hone (Nat.le_of_eq honesize.symm),
      hfound hother (Nat.le_of_eq hothersize.symm), hfound hgrown hgrownsize⟩
  · rw [List.forall_mem_cons, List.forall_mem_singleton]
    exact ⟨Strict.apply_eq hf markers, Strict.apply_eq hone markers⟩

/-- Of the scopes of `([`, after a flush, the bracket and the parenthesis around it are marked
before `])` are read and a brace opens, or after that; and the parenthesis is marked by itself
before that or after it. The parenthesis at the end of the markers is ignored either way. -/
theorem marking_commutes_while_closing :
    let marker (delimiter : Delimiter) (column : Nat) : Marker := ⟨delimiter, ⟨0, column⟩⟩
    let operations : List Operation :=
      [.apply [marker ⟨.paren, .opener⟩ 0, marker ⟨.bracket, .opener⟩ 1], .flushClosed]
    let markers := [marker ⟨.bracket, .closer⟩ 2, marker ⟨.paren, .closer⟩ 3,
      marker ⟨.brace, .opener⟩ 4, marker ⟨.paren, .closer⟩ 5]
    let f := Forest.empty.performAll operations
    (1 < f.size ∧ 0 < f.size) ∧
      (f.apply markers).mark 5 1 = ((f.mark 5 1).1.apply markers, 2) ∧
      (f.mark 5 1).1.strays markers = f.strays markers ∧
      ∃ both, (f.mark 5 1).1.mark 1 0 = (both, 1) ∧ (f.mark 1 0).1.mark 5 1 = (both, 2) := by
  intro marker operations markers f
  have hi : 1 < f.size := by decide
  have hj : 0 < f.size := by decide
  rcases marking_commutes operations markers 5 1 hi hj with ⟨hboth, ⟨hread, hstrays⟩, -⟩
  exact ⟨⟨hi, hj⟩, hread, hstrays, hboth⟩

end ScopeSearch.Forest
