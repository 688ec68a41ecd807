import ScopeSearch.Marker

/-!
# ScopeSearch.Proofs.Marker.Word — words of delimiters

What delimiters mean to each other is a matter of their order alone. `Dyck` is the language of the
words in which every opener is closed by its partner, with nothing left over. In any other word,

* `ClosedBy` says which marker is the partner of an opener: between the two stands a Dyck word;
* `InnermostOpen` says which opener is the last one without a partner;
* `LeavesOpen` says of the words that some Dyck word begins with which openers they leave open, and
  `LeavesOpen.mem_or_closedBy` that all others have a partner.
-/

namespace ScopeSearch.Marker

variable {o o' c : Marker} {v w word before before' after after' more inner : List Marker}
  {ids : List Nat}

/-- The two markers are an opener and a closer, and partners. -/
structure Pairs (o c : Marker) : Prop where
  opener : o.delimiter.isOpener = true
  partner : c.delimiter = o.delimiter.partner

theorem Pairs.closer (h : Pairs o c) : c.delimiter.isOpener = false := by
  have hside : o.delimiter.side = .opener := by simpa [Delimiter.isOpener] using h.opener
  rw [h.partner]
  simp [Delimiter.isOpener, Delimiter.partner, hside, Side.other]

/-- The Dyck language over the pairs of delimiters: every opener is closed by its partner, and what
stands between the two is such a word again. -/
inductive Dyck : List Marker → Prop where
  | nil : Dyck []
  | pair {o c : Marker} {inner rest : List Marker} (hpair : Pairs o c) (hinner : Dyck inner)
      (hrest : Dyck rest) : Dyck (o :: inner ++ c :: rest)

theorem Dyck.append (hv : Dyck v) (hw : Dyck w) : Dyck (v ++ w) := by
  induction hv with
  | nil => exact hw
  | @pair o c inner rest hpair hinner _ _ ih =>
    have hlonger := Dyck.pair hpair hinner ih
    rw [List.append_assoc]
    exact hlonger

theorem Dyck.enclose (hpair : Pairs o c) (hinner : Dyck inner) : Dyck (o :: inner ++ [c]) :=
  .pair hpair hinner .nil

/-- The openers of a word, in their order. -/
def openersOf (word : List Marker) : List Marker :=
  word.filter fun m => m.delimiter.isOpener

theorem openersOf_append (v w : List Marker) : openersOf (v ++ w) = openersOf v ++ openersOf w :=
  List.filter_append v w

theorem openersOf_cons_of_opener (ho : o.delimiter.isOpener = true) (after : List Marker) :
    openersOf (o :: after) = o :: openersOf after :=
  List.filter_cons_of_pos ho

/-! ## Partners -/

/-- The marker is the partner of an opener that `after` follows: what stands between the two is a
Dyck word. -/
def ClosedBy (o : Marker) (after : List Marker) (c : Marker) : Prop :=
  Pairs o c ∧ ∃ inner rest, after = inner ++ c :: rest ∧ Dyck inner

/-- An opener that has no partner in what follows it. -/
def StaysOpen (o : Marker) (after : List Marker) : Prop :=
  o.delimiter.isOpener = true ∧ ∀ c, ¬ ClosedBy o after c

/-- Every opener has its partner. -/
def AllClosed (word : List Marker) : Prop :=
  ∀ before o after, word = before ++ o :: after → ¬ StaysOpen o after

/-- The last opener of the word without a partner stands after `before`. -/
def InnermostOpen (word before : List Marker) (o : Marker) : Prop :=
  ∃ after, word = before ++ o :: after ∧ StaysOpen o after ∧ AllClosed after

theorem ClosedBy.append (h : ClosedBy o after c) (more : List Marker) :
    ClosedBy o (after ++ more) c := by
  rcases h with ⟨hpair, inner, rest, rfl, hinner⟩
  refine ⟨hpair, inner, rest ++ more, ?_, hinner⟩
  rw [List.append_assoc, List.cons_append]

/-- What begins with another word stops at it, or goes on past the next marker. -/
theorem same_or_past {between : List Marker} (htail : o :: after = between ++ o' :: after') :
    (between = [] ∧ o = o' ∧ after = after') ∨
      ∃ rest, between = o :: rest ∧ after = rest ++ o' :: after' := by
  cases between with
  | nil =>
    cases htail
    exact .inl ⟨rfl, rfl, rfl⟩
  | cons first rest =>
    cases htail
    exact .inr ⟨rest, rfl, rfl⟩

/-- Of two places in a word, one is the other, or comes before it. -/
theorem same_or_before (h : before ++ o :: after = before' ++ o' :: after') :
    (before = before' ∧ o = o' ∧ after = after') ∨
      (∃ between, after = between ++ o' :: after' ∧ before' = before ++ o :: between) ∨
      ∃ between, after' = between ++ o :: after ∧ before = before' ++ o' :: between := by
  rcases List.append_eq_append_iff.1 h with ⟨between, rfl, htail⟩ | ⟨between, rfl, htail⟩
  · rcases same_or_past htail with ⟨rfl, rfl, rfl⟩ | ⟨rest, rfl, rfl⟩
    · exact .inl ⟨(List.append_nil _).symm, rfl, rfl⟩
    · exact .inr (.inl ⟨rest, rfl, rfl⟩)
  · rcases same_or_past htail with ⟨rfl, rfl, rfl⟩ | ⟨rest, rfl, rfl⟩
    · exact .inl ⟨List.append_nil _, rfl, rfl⟩
    · exact .inr (.inr ⟨rest, rfl, rfl⟩)

/-- In a Dyck word every opener has its partner. -/
theorem Dyck.exists_closedBy (hword : Dyck word) (hat : word = before ++ o :: after)
    (ho : o.delimiter.isOpener = true) : ∃ c, ClosedBy o after c := by
  induction hword generalizing before after with
  | nil => exact absurd hat.symm (by simp)
  | @pair first c inner rest hpair hinner _ ihInner ihRest =>
    cases before with
    | nil =>
      cases hat
      exact ⟨c, hpair, inner, rest, rfl, hinner⟩
    | cons first' before =>
      have htail : inner ++ c :: rest = before ++ o :: after := (List.cons.inj hat).2
      rcases same_or_before htail with ⟨-, rfl, -⟩ | ⟨between, hrest, -⟩ | ⟨between, rfl, hinner'⟩
      · -- the opener is not the closer of the pair
        rw [hpair.closer] at ho
        cases ho
      · exact ihRest hrest
      · rcases ihInner hinner' with ⟨c', hclosed⟩
        exact ⟨c', hclosed.append (c :: rest)⟩

theorem Dyck.allClosed (hword : Dyck word) : AllClosed word := by
  intro before o after hat hopen
  rcases hword.exists_closedBy hat hopen.1 with ⟨c, hclosed⟩
  exact hopen.2 c hclosed

/-- No two openers are the last one without a partner. -/
theorem InnermostOpen.unique (h : InnermostOpen word before o)
    (h' : InnermostOpen word before' o') : before = before' ∧ o = o' := by
  rcases h with ⟨after, hat, hopen, hall⟩
  rcases h' with ⟨after', hat', hopen', hall'⟩
  rcases same_or_before (hat.symm.trans hat') with
    ⟨hbefore, ho, -⟩ | ⟨between, hlater, -⟩ | ⟨between, hlater, -⟩
  · exact ⟨hbefore, ho⟩
  · exact absurd hopen' (hall between o' after' hlater)
  · exact absurd hopen (hall' between o after hlater)

theorem InnermostOpen.not_allClosed (h : InnermostOpen word before o) : ¬ AllClosed word := by
  rcases h with ⟨after, hat, hopen, -⟩
  exact fun hall => hall before o after hat hopen

/-! ## Beginnings of Dyck words -/

/-- The word leaves some openers open, innermost first, each named by the number of openers before
it. Between two of them, before the first and after the last stand Dyck words. -/
inductive LeavesOpen : List Marker → List Nat → Prop where
  | none {word : List Marker} (hword : Dyck word) : LeavesOpen word []
  | opener {before inner : List Marker} {o : Marker} {outer : List Nat}
      (hbefore : LeavesOpen before outer) (ho : o.delimiter.isOpener = true) (hinner : Dyck inner) :
      LeavesOpen (before ++ o :: inner) ((openersOf before).length :: outer)

namespace LeavesOpen

theorem append_dyck (h : LeavesOpen word ids) (hmore : Dyck more) :
    LeavesOpen (word ++ more) ids := by
  cases h with
  | none hword => exact .none (hword.append hmore)
  | opener hbefore ho hinner =>
    rw [List.append_assoc, List.cons_append]
    exact .opener hbefore ho (hinner.append hmore)

/-- The word is the beginning of a Dyck word, also if a Dyck word follows first. -/
theorem exists_completion (h : LeavesOpen word ids) :
    ∃ rest, ∀ more, Dyck more → Dyck (word ++ more ++ rest) := by
  induction h with
  | none hword =>
    refine ⟨[], fun more hmore => ?_⟩
    rw [List.append_nil]
    exact hword.append hmore
  | @opener before inner o outer _ ho hinner ih =>
    -- the innermost opener is closed first, and then those around it
    rcases ih with ⟨rest, hrest⟩
    let c : Marker := ⟨o.delimiter.partner, o.position⟩
    refine ⟨c :: rest, fun more hmore => ?_⟩
    have hpair : Pairs o c := ⟨ho, rfl⟩
    have hclosed := hrest _ (Dyck.enclose hpair (hinner.append hmore))
    simpa using hclosed

/-- An opener that is not left open has its partner. -/
theorem mem_or_closedBy (h : LeavesOpen word ids) (hat : word = before ++ o :: after)
    (ho : o.delimiter.isOpener = true) :
    (openersOf before).length ∈ ids ∨ ∃ c, ClosedBy o after c := by
  induction h generalizing before after with
  | none hword => exact .inr (hword.exists_closedBy hat ho)
  | @opener before' inner o' outer _ _ hinner ih =>
    rcases same_or_before hat with ⟨rfl, -, -⟩ | ⟨between, hlater, -⟩ | ⟨between, rfl, hearlier⟩
    · exact .inl List.mem_cons_self
    · exact .inr (hinner.exists_closedBy hlater ho)
    · rcases ih hearlier with hmem | ⟨c, hclosed⟩
      · exact .inl (List.mem_cons_of_mem _ hmem)
      · exact .inr ⟨c, hclosed.append (o' :: inner)⟩

end LeavesOpen

end ScopeSearch.Marker
