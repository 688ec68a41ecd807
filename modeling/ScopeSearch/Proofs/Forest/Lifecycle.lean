import ScopeSearch.Proofs.Forest.Flushing

/-!
# ScopeSearch.Proofs.Forest.Lifecycle — what a scope goes through

A scope is named by its place among the scopes, and operations change scopes in place: more open
inside them, a closer is read, marks are set. `Scope.Ages` says all that may change.

* `Ages.perform` — an operation changes no scope in any other way, unless it drops all;
* `ages_between` — so over any stretch of operations each scope keeps its name and its delimiters,
  is closed at most once, and takes nothing in after that;
* `nodup_enteredIds` — it is put among the waiting scopes at most once;
* `scopes_live_once` — this is all of a scope's life, and it ends where no scope is open and none
  waits.
-/

namespace ScopeSearch

variable {f g k : Forest} {s t u : Scope} {id : Nat} {operation : Operation}

/-! ## Scopes as they age -/

/-- The scope `s` may have become `t`. -/
structure Scope.Ages (s t : Scope) : Prop where
  parent_eq : t.parent = s.parent
  opener_eq : t.opener = s.opener
  closer_kept : ∀ ⦃closer⦄, s.closer = some closer → t.closer = some closer
  matched_kept : s.matched = true → t.matched = true
  /-- Scopes that open inside come after those that are there. -/
  children_prefix : s.children.toList <+: t.children.toList
  /-- Nothing opens inside a closed scope. -/
  children_eq : s.closer ≠ none → t.children = s.children

namespace Scope.Ages

theorem refl (s : Scope) : s.Ages s where
  parent_eq := rfl
  opener_eq := rfl
  closer_kept := fun _ h => h
  matched_kept := id
  children_prefix := List.prefix_rfl
  children_eq := fun _ => rfl

theorem trans (hst : s.Ages t) (htu : t.Ages u) : s.Ages u := by
  constructor
  case parent_eq => exact htu.parent_eq.trans hst.parent_eq
  case opener_eq => exact htu.opener_eq.trans hst.opener_eq
  case closer_kept => exact fun closer h => htu.closer_kept (hst.closer_kept h)
  case matched_kept => exact fun h => htu.matched_kept (hst.matched_kept h)
  case children_prefix => exact hst.children_prefix.trans htu.children_prefix
  case children_eq =>
    intro hclosed
    obtain ⟨closer, hcloser⟩ := Option.ne_none_iff_exists'.1 hclosed
    have hlater : t.closer ≠ none := by simp [hst.closer_kept hcloser]
    rw [htu.children_eq hlater, hst.children_eq hclosed]

end Scope.Ages

namespace Forest

/-- Each scope of `f` is one of `g`, under the same id, and has only aged. -/
def Ages (f g : Forest) : Prop :=
  ∀ ⦃id s⦄, f.find? id = some s → ∃ t, g.find? id = some t ∧ s.Ages t

namespace Ages

theorem refl (f : Forest) : f.Ages f :=
  fun _ s hs => ⟨s, hs, .refl s⟩

theorem trans (hfg : f.Ages g) (hgk : g.Ages k) : f.Ages k := by
  intro id s hs
  rcases hfg hs with ⟨t, ht, hst⟩
  rcases hgk ht with ⟨u, hu, htu⟩
  exact ⟨u, hu, hst.trans htu⟩

/-- What has closed stays closed. -/
theorem isClosed (h : f.Ages g) (hclosed : f.isClosed id = true) : g.isClosed id = true := by
  rcases (Option.any_eq_true _ _).1 hclosed with ⟨s, hs, hs'⟩
  rcases h hs with ⟨t, ht, hst⟩
  refine (Option.any_eq_true _ _).2 ⟨t, ht, ?_⟩
  cases hcloser : s.closer with
  | none => simp [Scope.isOpen, hcloser] at hs'
  | some closer => simp [Scope.isOpen, hst.closer_kept hcloser]

/-- Opening a scope puts it last among the children of the innermost open one. -/
theorem openScope (hf : f.WellFormed) (m : Marker) : f.Ages (f.openScope m) := by
  intro id s hs
  have hne : id ≠ f.size := Nat.ne_of_lt (lt_size_of_find? hs)
  rw [find?_openScope, if_neg hne]
  by_cases hhead : f.openStack.head? = some id
  · rw [if_pos hhead, hs]
    refine ⟨{ s with children := s.children.push f.size }, rfl, ?_⟩
    have hopen : s.closer = none := (hf.closer_eq_none_iff hs).2 (List.mem_of_mem_head? hhead)
    constructor
    case children_prefix =>
      rw [Array.toList_push]
      exact List.prefix_append _ _
    case children_eq => exact fun hclosed => absurd hopen hclosed
    all_goals simp
  · rw [if_neg hhead]
    exact ⟨s, hs, .refl s⟩

/-- Only a scope that is open gets a closer. -/
theorem closeInnermost (hf : f.WellFormed) (m : Marker) : f.Ages (f.closeInnermost m) := by
  intro id s hs
  rw [find?_closeInnermost]
  by_cases hhead : f.openStack.head? = some id
  · rw [if_pos hhead, hs]
    refine ⟨{ s with closer := some m }, rfl, ?_⟩
    have hopen : s.closer = none := (hf.closer_eq_none_iff hs).2 (List.mem_of_mem_head? hhead)
    constructor
    case closer_kept =>
      intro closer hcloser
      rw [hopen] at hcloser
      cases hcloser
    all_goals simp
  · rw [if_neg hhead]
    exact ⟨s, hs, .refl s⟩

theorem read (hf : f.WellFormed) (m : Marker) : f.Ages (f.read m).1 := by
  rcases f.read_cases m with ⟨-, hread⟩ | ⟨-, hread⟩ | ⟨-, hread, -⟩
  · rw [hread]
    exact openScope hf m
  · rw [hread]
    exact refl f
  · rw [hread]
    exact closeInnermost hf m

theorem apply (hf : f.WellFormed) (markers : List Marker) : f.Ages (f.apply markers) := by
  induction markers generalizing f with
  | nil => exact refl f
  | cons m rest ih => exact (read hf m).trans (ih (hf.read m))

theorem mark (f : Forest) (count : Nat) (start : ScopeId) : f.Ages (f.mark count start).1 := by
  intro id s hs
  rw [find?_mark, hs]
  refine ⟨_, rfl, ?_⟩
  constructor
  case matched_kept =>
    intro hmatched
    simp [hmatched]
  all_goals simp

/-- An operation lets scopes age, unless it drops them. -/
theorem perform (hf : f.WellFormed) (hclears : f.clears operation = false) :
    f.Ages (f.perform operation) := by
  cases operation with
  | apply markers => exact apply hf markers
  | mark count start => exact mark f count start
  | innermostContaining line span => exact refl f
  | consolidate => exact refl f
  | flushClosed => exact refl f
  | openReports => exact refl f
  | release =>
    show f.Ages f.release
    rw [release_of_not_clears hclears]
    exact refl f
  | get other => exact refl f

end Ages

/-! ## Operations that drop no scope -/

/-- None of the operations drops scopes. -/
def keepsScopes (f : Forest) : List Operation → Bool
  | [] => true
  | operation :: rest => !f.clears operation && (f.perform operation).keepsScopes rest

theorem keepsScopes_cons_iff {rest : List Operation} :
    f.keepsScopes (operation :: rest) = true ↔
      f.clears operation = false ∧ (f.perform operation).keepsScopes rest = true := by
  rw [keepsScopes, Bool.and_eq_true, Bool.not_eq_true']

theorem performAll_append (f : Forest) (first second : List Operation) :
    f.performAll (first ++ second) = (f.performAll first).performAll second :=
  List.foldl_append

theorem keepsScopes_append (f : Forest) (first second : List Operation) :
    f.keepsScopes (first ++ second) =
      (f.keepsScopes first && (f.performAll first).keepsScopes second) := by
  induction first generalizing f with
  | nil => rfl
  | cons operation rest ih =>
    rw [List.cons_append, keepsScopes, keepsScopes, ih, Bool.and_assoc]
    rfl

theorem ages_performAll (hf : f.WellFormed) {operations : List Operation}
    (hkeeps : f.keepsScopes operations = true) : f.Ages (f.performAll operations) := by
  induction operations generalizing f with
  | nil => exact .refl f
  | cons operation rest ih =>
    rcases keepsScopes_cons_iff.1 hkeeps with ⟨hclears, hrest⟩
    exact (Ages.perform hf hclears).trans (ih (hf.perform operation) hrest)

/-- Between any two points of a run scopes have only aged. -/
theorem ages_between (hf : f.WellFormed) {operations : List Operation}
    (hkeeps : f.keepsScopes operations = true) {i j : Nat} (hij : i ≤ j) :
    (f.performAll (operations.take i)).Ages (f.performAll (operations.take j)) := by
  have hsplit : operations.take j = operations.take i ++ (operations.drop i).take (j - i) := by
    rw [← List.take_add, Nat.add_sub_of_le hij]
  rw [← List.take_append_drop j operations, keepsScopes_append, Bool.and_eq_true, hsplit,
    keepsScopes_append, Bool.and_eq_true] at hkeeps
  rcases hkeeps with ⟨⟨-, hbetween⟩, -⟩
  rw [hsplit, performAll_append]
  exact ages_performAll (hf.performAll _) hbetween

/-- The marker that closed a scope. -/
def closer? (f : Forest) (id : ScopeId) : Option Marker :=
  (f.find? id).bind Scope.closer

theorem Ages.closer?_eq (h : f.Ages g) (hcloser : f.closer? id ≠ none) :
    g.closer? id = f.closer? id := by
  obtain ⟨closer, hcloser⟩ := Option.ne_none_iff_exists'.1 hcloser
  obtain ⟨s, hs, hc⟩ := Option.bind_eq_some_iff.1 hcloser
  rcases h hs with ⟨t, ht, hst⟩
  rw [hcloser, closer?, ht, Option.bind_some, hst.closer_kept hc]

/-! ## Among the waiting scopes -/

theorem prefix_closed_read (f : Forest) (m : Marker) :
    f.closed.toList <+: (f.read m).1.closed.toList := by
  rcases f.read_cases m with ⟨-, hread⟩ | ⟨-, hread⟩ | ⟨-, hread, -⟩
  · refine ⟨[], ?_⟩
    rw [hread]
    exact List.append_nil f.closed.toList
  · refine ⟨[], ?_⟩
    rw [hread]
    exact List.append_nil f.closed.toList
  · rw [hread, closed_closeInnermost]
    exact List.prefix_append f.closed.toList _

theorem prefix_closed_apply (f : Forest) (markers : List Marker) :
    f.closed.toList <+: (f.apply markers).closed.toList := by
  induction markers generalizing f with
  | nil => exact List.prefix_rfl
  | cons m rest ih => exact (prefix_closed_read f m).trans (ih (f.read m).1)

/-- The scopes that an operation puts among the waiting ones, as often as it does. -/
def entered (f : Forest) (operation : Operation) : List ScopeId :=
  match operation with
  | .apply markers => (f.apply markers).closed.toList.drop f.closed.size
  | _ => []

/-- The scopes that operations put among the waiting ones, in order. -/
def enteredIds (f : Forest) : List Operation → List ScopeId
  | [] => []
  | operation :: rest => f.entered operation ++ (f.perform operation).enteredIds rest

/-- Scopes leave the waiting ones by flushes alone, which take them all. -/
theorem closed_perform (hclears : f.clears operation = false) :
    (f.perform operation).closed.toList =
      (if operation = .flushClosed then [] else f.closed.toList) ++ f.entered operation := by
  cases operation with
  | apply markers =>
    obtain ⟨new, hnew⟩ := prefix_closed_apply f markers
    rw [if_neg Operation.noConfusion]
    show (f.apply markers).closed.toList = _ ++ (f.apply markers).closed.toList.drop f.closed.size
    rw [← hnew, ← Array.length_toList, List.drop_left]
  | flushClosed => rfl
  | mark count start =>
    rw [if_neg Operation.noConfusion]
    show (f.mark count start).1.closed.toList = f.closed.toList ++ []
    rw [closed_mark, List.append_nil]
  | release =>
    rw [if_neg Operation.noConfusion]
    show f.release.closed.toList = f.closed.toList ++ []
    rw [release_of_not_clears hclears, List.append_nil]
  | innermostContaining line span => exact (List.append_nil _).symm
  | consolidate => exact (List.append_nil _).symm
  | openReports => exact (List.append_nil _).symm
  | get other => exact (List.append_nil _).symm

theorem mem_entered (hid : id ∈ f.entered operation) : ∃ markers, operation = .apply markers ∧
    id ∈ (f.apply markers).closed.toList.drop f.closed.size := by
  cases operation with
  | apply markers => exact ⟨markers, rfl, hid⟩
  | _ => exact absurd hid List.not_mem_nil

/-- What begins to wait closes in that operation. -/
theorem closes_of_mem_entered (hf : f.WellFormed) (hid : id ∈ f.entered operation) :
    f.isClosed id = false ∧ (f.perform operation).isClosed id = true := by
  obtain ⟨markers, rfl, hnew⟩ := mem_entered hid
  have hg : (f.apply markers).WellFormed := hf.apply markers
  have hwaits : id ∈ (f.apply markers).closed.toList := List.mem_of_mem_drop hnew
  refine ⟨?_, hg.isClosed_of_mem_closed hwaits⟩
  by_contra hclosed
  rw [Bool.not_eq_false] at hclosed
  have hlt : id < f.size := lt_size_of_any hclosed
  by_cases hold : id ∈ f.closed.toList
  · -- it would wait twice
    obtain ⟨new, hsplit⟩ := prefix_closed_apply f markers
    have hnodup := hg.closed_nodup
    rw [← hsplit] at hnodup hnew
    rw [← Array.length_toList, List.drop_left] at hnew
    exact (List.nodup_append.1 hnodup).2.2 id hold id hnew rfl
  · have hflushed : f.Flushed id := ⟨hlt, hold, (hf.isClosed_iff hlt).1 hclosed⟩
    exact (hflushed.apply markers).not_waiting hwaits

/-- What has closed does not begin to wait any more. -/
theorem not_mem_enteredIds (hf : f.WellFormed) {operations : List Operation}
    (hkeeps : f.keepsScopes operations = true) (hclosed : f.isClosed id = true) :
    id ∉ f.enteredIds operations := by
  induction operations generalizing f with
  | nil => exact List.not_mem_nil
  | cons operation rest ih =>
    rcases keepsScopes_cons_iff.1 hkeeps with ⟨hclears, hrest⟩
    rw [enteredIds, List.mem_append, not_or]
    constructor
    · intro hid
      rw [(closes_of_mem_entered hf hid).1] at hclosed
      cases hclosed
    · have hlater := (Ages.perform hf hclears).isClosed hclosed
      exact ih (hf.perform operation) hrest hlater

theorem nodup_entered (hf : f.WellFormed) (operation : Operation) :
    (f.entered operation).Nodup := by
  cases operation with
  | apply markers => exact (hf.apply markers).closed_nodup.sublist (List.drop_sublist _ _)
  | _ => exact List.nodup_nil

/-- No scope is put among the waiting ones twice. -/
theorem nodup_enteredIds (hf : f.WellFormed) {operations : List Operation}
    (hkeeps : f.keepsScopes operations = true) : (f.enteredIds operations).Nodup := by
  induction operations generalizing f with
  | nil => exact List.nodup_nil
  | cons operation rest ih =>
    have hrest := (keepsScopes_cons_iff.1 hkeeps).2
    have hg := hf.perform operation
    rw [enteredIds, List.nodup_append]
    refine ⟨nodup_entered hf operation, ih hg hrest, ?_⟩
    rintro id hid other hother rfl
    have hcloses := (closes_of_mem_entered hf hid).2
    exact not_mem_enteredIds hg hrest hcloses hother

/-! ## The whole life -/

/-- A forest without scopes lists none. -/
theorem WellFormed.eq_empty (hf : f.WellFormed) (hscopes : f.scopes = #[]) : f = Forest.empty := by
  have hsize : f.size = 0 := Array.size_eq_zero_iff.2 hscopes
  have hopen : f.openStack = [] := by
    refine List.eq_nil_iff_forall_not_mem.2 fun id hid => ?_
    have hlt := hf.lt_size_of_mem_openStack hid
    omega
  have hclosed : f.closed = #[] := by
    refine Array.eq_empty_iff_forall_not_mem.2 fun id hid => ?_
    have hlt := hf.lt_size_of_mem_closed (Array.mem_toList_iff.2 hid)
    omega
  rcases f with ⟨scopes, openStack, closed⟩
  cases hscopes
  cases hopen
  cases hclosed
  rfl

/-- A release leaves no scope just if none is open and none waits. -/
theorem WellFormed.scopes_release_eq_empty_iff (hf : f.WellFormed) :
    f.release.scopes = #[] ↔ f.openStack = [] ∧ f.closed = #[] := by
  constructor
  · intro hscopes
    by_contra hsome
    rw [release_eq, if_neg hsome] at hscopes
    rw [hf.eq_empty hscopes] at hsome
    exact hsome ⟨rfl, rfl⟩
  · intro hnone
    rw [release_eq, if_pos hnone]
    rfl

/-- After any operations, in any order, scopes live once. Over any further operations that drop no
scope, each scope keeps its id, its opener and the scope around it; it gets a closer at most once;
a mark is never taken away; scopes open inside it one after the other, and none does once it is
closed. It is put among the waiting scopes at most once, and only when it closes. A release drops
all scopes just if none is open and none waits, and else changes nothing. -/
theorem scopes_live_once (operations later : List Operation)
    (hkeeps : (Forest.empty.performAll operations).keepsScopes later = true) :
    let f := Forest.empty.performAll operations
    let after (n : Nat) := f.performAll (later.take n)
    (∀ i j, i ≤ j → (after i).Ages (after j)) ∧
    (∀ id i j k, i ≤ j → j ≤ k → (after i).closer? id ≠ (after j).closer? id →
      (after i).closer? id = none ∧ (after k).closer? id = (after j).closer? id) ∧
    (f.enteredIds later).Nodup ∧
    (∀ id ∈ f.enteredIds later, f.isClosed id = false) ∧
    (∀ operation, f.clears operation = false → (f.perform operation).closed.toList =
      (if operation = .flushClosed then [] else f.closed.toList) ++ f.entered operation) ∧
    (f.release.scopes = #[] ↔ f.openStack = [] ∧ f.closed = #[]) ∧
    f.release = if f.openStack = [] ∧ f.closed = #[] then Forest.empty else f := by
  intro f after
  have hf : f.WellFormed := wellFormed_performAll operations
  have hages : ∀ i j, i ≤ j → (after i).Ages (after j) := fun i j hij => ages_between hf hkeeps hij
  refine ⟨hages, ?_, nodup_enteredIds hf hkeeps, ?_, fun operation => closed_perform,
    hf.scopes_release_eq_empty_iff, release_eq f⟩
  · intro id i j k hij hjk hchanged
    have hnone : (after i).closer? id = none := by
      by_contra hclosed
      exact hchanged ((hages i j hij).closer?_eq hclosed).symm
    rw [hnone] at hchanged
    exact ⟨hnone, (hages j k hjk).closer?_eq hchanged.symm⟩
  · intro id hid
    by_contra hclosed
    rw [Bool.not_eq_false] at hclosed
    exact not_mem_enteredIds hf hkeeps hclosed hid

/-- After the line `([`, both scopes are marked, the line `](` is read, and the bracket is flushed.
The release that follows drops nothing, and the line `))` closes the other two. -/
theorem scopes_live_once_across_flush :
    let f := Forest.empty.performAll [.apply (Marker.onLine [0x28, 0x5B] 0)]
    let later : List Operation :=
      [.mark 2 1, .apply (Marker.onLine [0x5D, 0x28] 1), .flushClosed, .release,
        .apply (Marker.onLine [0x29, 0x29] 2)]
    f.keepsScopes later = true ∧ f.enteredIds later = [1, 2, 0] ∧ (f.enteredIds later).Nodup ∧
      f.Ages (f.performAll later) := by
  intro f later
  have hkeeps : f.keepsScopes later = true := by decide
  rcases scopes_live_once [.apply (Marker.onLine [0x28, 0x5B] 0)] later hkeeps with
    ⟨hages, -, hnodup, -⟩
  have hentered : f.enteredIds later = [1, 2, 0] := by decide
  exact ⟨hkeeps, hentered, hnodup, hages 0 5 (by decide)⟩

end Forest

end ScopeSearch
