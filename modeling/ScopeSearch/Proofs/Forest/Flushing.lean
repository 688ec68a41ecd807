import Mathlib.Data.List.Basic
import ScopeSearch.Proofs.Forest.Lookup

/-!
# ScopeSearch.Proofs.Forest.Flushing — what a flush reports, and that it does so once

A forest may be used in any way: markers in any order, marks anywhere, flushes while scopes are
open. Whatever came before,

* `idxOf_consolidate_lt_iff` — the results of consolidating stand in the order of the first waiting
  scopes that are folded into them;
* `forall₂_reports` — a flush reports the range of each result, in this order;
* `Flushed.perform` — a scope that has closed and does not wait never waits again, until the scopes
  are dropped;
* `nodup_flushedIds` — so no flush reports a scope again.
-/

namespace ScopeSearch.Forest

variable {f : Forest} {id t u : Nat} {ids : List ScopeId} {m : Marker}

/-! ## What a flush reports -/

/-- In a list that is sorted by a key, one element stands before another just if its key is the
smaller one. -/
theorem idxOf_lt_iff_of_pairwise {α : Type} [BEq α] [LawfulBEq α] {l : List α} {key : α → Nat}
    (hsorted : l.Pairwise fun a b => key a < key b) {a b : α} (ha : a ∈ l) (hb : b ∈ l) :
    l.idxOf a < l.idxOf b ↔ key a < key b := by
  have hkeys : ∀ {a b}, a ∈ l → b ∈ l → l.idxOf a < l.idxOf b → key a < key b := by
    intro a b ha hb hlt
    have hpair := List.pairwise_iff_getElem.1 hsorted (l.idxOf a) (l.idxOf b)
      (List.idxOf_lt_length_iff.2 ha) (List.idxOf_lt_length_iff.2 hb) hlt
    rw [List.getElem_idxOf, List.getElem_idxOf] at hpair
    exact hpair
  constructor
  · exact hkeys ha hb
  · intro hlt
    by_contra hnot
    rcases Nat.lt_or_eq_of_le (Nat.not_lt.1 hnot) with hgt | heq
    · have hgt' := hkeys hb ha hgt
      omega
    · have hsame : b = a := (List.idxOf_inj hb).1 heq
      rw [hsame] at hlt
      omega

/-- The results stand in the order of the first waiting scopes that are folded into them. -/
theorem idxOf_consolidate_lt_iff (hf : f.WellFormed) (ht : t ∈ f.consolidate)
    (hu : u ∈ f.consolidate) : f.consolidate.idxOf t < f.consolidate.idxOf u ↔
      f.firstFold f.isMatched t < f.firstFold f.isMatched u :=
  idxOf_lt_iff_of_pairwise (pairwise_consolidate hf) ht hu

theorem firstFold_lt_size (hf : f.WellFormed) (ht : t ∈ f.consolidate) :
    f.firstFold f.isMatched t < f.closed.size := by
  obtain ⟨d, hd, -⟩ := getElem?_firstFold hf ht
  have hlt := (List.getElem?_eq_some_iff.1 hd).1
  rw [Array.length_toList] at hlt
  exact hlt

/-- The reports of scopes that are there are their ranges, one for each. -/
theorem forall₂_reports (hids : ∀ id : Nat, id ∈ ids → id < f.size) :
    List.Forall₂ (fun id r => ∃ s, f.find? id = some s ∧ s.report = r) ids (f.reports ids) := by
  induction ids with
  | nil => exact .nil
  | cons id rest ih =>
    obtain ⟨s, hs⟩ := exists_find? (hids id List.mem_cons_self)
    have hrest := ih fun other hother => hids other (List.mem_cons_of_mem id hother)
    have hcons : f.reports (id :: rest) = s.report :: f.reports rest := by simp [reports, hs]
    rw [hcons]
    exact .cons ⟨s, hs, rfl⟩ hrest

theorem consolidate_of_closed_eq_empty (h : f.closed = #[]) : f.consolidate = [] := by
  simp [consolidate, h]

/-! ## Scopes that have been flushed -/

/-- The scope has closed, and does not wait any more. -/
structure Flushed (f : Forest) (id : ScopeId) : Prop where
  lt_size : id < f.size
  not_waiting : id ∉ f.closed.toList
  not_open : id ∉ f.openStack

/-- The operation drops scopes: it is a release, with no scope open and none waiting, of a forest
that holds some. -/
def clears (f : Forest) : Operation → Bool
  | .release => f.openStack.isEmpty && f.closed.isEmpty && !f.scopes.isEmpty
  | _ => false

/-- A release that drops no scope changes nothing. -/
theorem release_of_not_clears (h : f.clears .release = false) : f.release = f := by
  rcases f with ⟨scopes, openStack, closed⟩
  rw [release_eq]
  split
  · rename_i hnone
    rcases hnone with ⟨rfl, rfl⟩
    have hscopes : scopes = #[] := by simpa [clears] using h
    rw [hscopes]
    rfl
  · rfl

namespace Flushed

theorem openScope (h : f.Flushed id) (m : Marker) : (f.openScope m).Flushed id := by
  constructor
  case lt_size =>
    rw [size_openScope]
    exact Nat.lt_succ_of_lt h.lt_size
  case not_waiting => exact h.not_waiting
  case not_open =>
    -- the scope that opens has a new id
    have hne : id ≠ f.size := Nat.ne_of_lt h.lt_size
    show id ∉ f.size :: f.openStack
    rw [List.mem_cons, not_or]
    exact ⟨hne, h.not_open⟩

theorem closeInnermost (h : f.Flushed id) (m : Marker) : (f.closeInnermost m).Flushed id := by
  constructor
  case lt_size =>
    rw [size_closeInnermost]
    exact h.lt_size
  case not_waiting =>
    -- what closes now has been open
    rw [closed_closeInnermost, List.mem_append, not_or]
    refine ⟨h.not_waiting, fun hid => ?_⟩
    have hhead : f.openStack.head? = some id := Option.mem_toList.1 hid
    exact h.not_open (List.mem_of_mem_head? hhead)
  case not_open =>
    rw [openStack_closeInnermost]
    exact fun hid => h.not_open (List.mem_of_mem_tail hid)

theorem read (h : f.Flushed id) (m : Marker) : (f.read m).1.Flushed id := by
  rcases f.read_cases m with ⟨-, hread⟩ | ⟨-, hread⟩ | ⟨-, hread, -⟩
  · rw [hread]
    exact h.openScope m
  · rw [hread]
    exact h
  · rw [hread]
    exact h.closeInnermost m

theorem apply (h : f.Flushed id) (markers : List Marker) : (f.apply markers).Flushed id :=
  apply_induction (motive := fun f => f.Flushed id) (fun _ m h => h.read m) h markers

theorem mark (h : f.Flushed id) (count : Nat) (start : ScopeId) :
    (f.mark count start).1.Flushed id := by
  have hsame := unmarked_mark f count start
  constructor
  case lt_size =>
    rw [size_eq_of_unmarked_eq hsame]
    exact h.lt_size
  case not_waiting =>
    rw [closed_mark]
    exact h.not_waiting
  case not_open =>
    rw [openStack_mark]
    exact h.not_open

/-- A scope that has been flushed stays so, unless the scopes are dropped. -/
theorem perform (h : f.Flushed id) {operation : Operation}
    (hclears : f.clears operation = false) : (f.perform operation).Flushed id := by
  cases operation with
  | apply markers => exact h.apply markers
  | mark count start => exact h.mark count start
  | innermostContaining line span => exact h
  | consolidate => exact h
  | flushClosed => exact ⟨h.lt_size, List.not_mem_nil, h.not_open⟩
  | openReports => exact h
  | release =>
    show f.release.Flushed id
    rw [release_of_not_clears hclears]
    exact h
  | get other => exact h

end Flushed

/-! ## Flushes one after the other -/

/-- The scopes that an operation reports and takes off the waiting ones. -/
def flushedBy (f : Forest) : Operation → List ScopeId
  | .flushClosed => f.consolidate
  | _ => []

/-- The scopes that the flushes among some operations report, up to the first operation that drops
scopes. -/
def flushedIds (f : Forest) : List Operation → List ScopeId
  | [] => []
  | operation :: rest =>
    f.flushedBy operation ++
      if f.clears operation then [] else (f.perform operation).flushedIds rest

theorem nodup_flushedBy (f : Forest) (operation : Operation) :
    (f.flushedBy operation).Nodup := by
  cases operation with
  | flushClosed => exact nodup_consolidate f
  | _ => exact List.nodup_nil

/-- What an operation flushes has waited until then. -/
theorem mem_closed_of_mem_flushedBy (hf : f.WellFormed) {operation : Operation}
    (hid : id ∈ f.flushedBy operation) :
    operation = .flushClosed ∧ id ∈ f.closed.toList := by
  cases operation with
  | flushClosed => exact ⟨rfl, ((mem_consolidate_iff hf).1 hid).1⟩
  | _ => exact absurd hid List.not_mem_nil

/-- What has been flushed is not flushed later. -/
theorem Flushed.not_mem_flushedIds (h : f.Flushed id) (hf : f.WellFormed)
    (operations : List Operation) : id ∉ f.flushedIds operations := by
  induction operations generalizing f with
  | nil => exact List.not_mem_nil
  | cons operation rest ih =>
    unfold flushedIds
    rw [List.mem_append, not_or]
    constructor
    · intro hid
      exact h.not_waiting (mem_closed_of_mem_flushedBy hf hid).2
    · cases hclears : f.clears operation with
      | true => exact List.not_mem_nil
      | false => exact ih (h.perform hclears) (hf.perform operation)

/-- No two flushes report the same scope. -/
theorem nodup_flushedIds (hf : f.WellFormed) (operations : List Operation) :
    (f.flushedIds operations).Nodup := by
  induction operations generalizing f with
  | nil => exact List.nodup_nil
  | cons operation rest ih =>
    unfold flushedIds
    rw [List.nodup_append]
    refine ⟨nodup_flushedBy f operation, ?_, ?_⟩
    · cases f.clears operation with
      | true => exact List.nodup_nil
      | false => exact ih (hf.perform operation)
    · rintro id hid other hother rfl
      rcases mem_closed_of_mem_flushedBy hf hid with ⟨rfl, hwaits⟩
      -- the flush has taken the scope off the waiting ones
      have hflushed : f.flushClosed.2.Flushed id :=
        ⟨hf.lt_size_of_mem_closed hwaits, List.not_mem_nil, hf.not_mem_openStack hwaits⟩
      exact hflushed.not_mem_flushedIds hf.flushClosed rest hother

/-- After any operations, in any order, a flush is exact. It reports the waiting scopes that are
marked and have no marked parent, each once, in the order of the first waiting scopes that an
unbroken line of marked scopes leads up from to each. Then none waits, and all else is as before. No
scope is reported by two flushes, until the scopes are dropped. -/
theorem flush_is_exact (operations later : List Operation) :
    let f := Forest.empty.performAll operations
    let (reports, flushed) := f.flushClosed
    f.consolidate.Nodup ∧
    (∀ t, t ∈ f.consolidate ↔ t ∈ f.closed.toList ∧ f.isMatched t = true ∧
      ∀ p, f.parent? t = some p → f.isMatched p = false) ∧
    (∀ t ∈ f.consolidate, f.firstFold f.isMatched t < f.closed.size) ∧
    (∀ t ∈ f.consolidate, ∀ u ∈ f.consolidate,
      f.consolidate.idxOf t < f.consolidate.idxOf u ↔
        f.firstFold f.isMatched t < f.firstFold f.isMatched u) ∧
    List.Forall₂ (fun id r => ∃ s, f.find? id = some s ∧ s.report = r) f.consolidate reports ∧
    flushed = { f with closed := #[] } ∧ flushed.flushClosed.1 = [] ∧
    (f.flushedIds later).Nodup := by
  intro f
  have hf : f.WellFormed := wellFormed_performAll operations
  have hids : ∀ id : Nat, id ∈ f.consolidate → id < f.size := by
    intro id hid
    exact hf.lt_size_of_mem_closed ((mem_consolidate_iff hf).1 hid).1
  have hnothing : f.flushClosed.2.consolidate = [] := consolidate_of_closed_eq_empty rfl
  refine ⟨nodup_consolidate f, fun t => mem_consolidate_iff hf,
    fun t ht => firstFold_lt_size hf ht, fun t ht u hu => idxOf_consolidate_lt_iff hf ht hu,
    forall₂_reports hids, rfl, ?_, nodup_flushedIds hf later⟩
  show f.flushClosed.2.reports f.flushClosed.2.consolidate = []
  rw [hnothing]
  rfl

/-- Of the line `([x]({y}))` the bracket closes first, and is folded into the outer parenthesis,
which so comes before the brace, although it closes after it. -/
example :
    let f := Forest.empty.apply (Marker.onLine
      [0x28, 0x5B, 0x78, 0x5D, 0x28, 0x7B, 0x79, 0x7D, 0x29, 0x29] 0)
    ((f.mark 2 1).1.mark 1 3).1.consolidate = [0, 3] := by
  decide

end ScopeSearch.Forest
