import Mathlib.Data.List.Perm.Basic
import ScopeSearch.Matcher
import ScopeSearch.Proofs.Marker.Occurrence

/-!
# ScopeSearch.Proofs.Marker.Scan — one scan for each delimiter

The delimiters of a line can be found in one pass, or by a scan for each delimiter by itself with
all that is found put in the order of the columns afterwards. A scan looks for the next place in
what follows a column, and goes on one byte past the start of that place; cutting the line there
fails beyond its end.

* `mem_onLine_iff` — the single pass finds each delimiter wherever its bytes stand;
* `columnsFrom_spec` — a scan never cuts the line beyond its end, and finds the same places;
* `onLine_is_exact` — both ways give the same markers, however the scans' markers are sorted.
-/

namespace ScopeSearch

variable {d d' : Delimiter} {needle text : Bytes} {number column base : Nat} {m : Marker}

/-! ## Places where a delimiter stands -/

theorem Delimiter.bytes_ne_nil (d : Delimiter) : d.bytes ≠ [] := by
  rcases d with ⟨pair, side⟩
  cases pair <;> cases side <;> exact List.cons_ne_nil _ _

/-- No delimiter begins with another one. -/
theorem Delimiter.eq_of_prefix_bytes (h : d.bytes <+: d'.bytes) : d = d' := by
  have hall : ∀ d ∈ all, ∀ d' ∈ all, d.bytes <+: d'.bytes → d = d' := by decide
  exact hall d d.mem_all d' d'.mem_all h

/-- No two delimiters begin at one place. -/
theorem Delimiter.prefix_unique (h : d.bytes <+: text) (h' : d'.bytes <+: text) : d = d' := by
  rcases List.prefix_or_prefix_of_prefix h h' with hprefix | hprefix
  · exact eq_of_prefix_bytes hprefix
  · exact (eq_of_prefix_bytes hprefix).symm

namespace Marker

theorem headDelimiter?_eq_some_iff : headDelimiter? text = some d ↔ d.bytes <+: text := by
  constructor
  · exact bytes_prefix_of_headDelimiter?
  · intro h
    cases hfound : headDelimiter? text with
    | none =>
      unfold headDelimiter? at hfound
      have hnot := List.find?_eq_none.1 hfound d d.mem_all
      exact absurd (List.isPrefixOf_iff_prefix.2 h) hnot
    | some d' => rw [Delimiter.prefix_unique h (bytes_prefix_of_headDelimiter? hfound)]

/-- The markers that follow a column are there wherever a delimiter stands. -/
theorem mem_fromColumn (number column : Nat) (h : d.bytes <+: text.drop base) :
    ⟨d, ⟨number, column + base⟩⟩ ∈ fromColumn number column text := by
  induction text generalizing column base with
  | nil =>
    rw [List.drop_nil, List.prefix_nil] at h
    exact absurd h d.bytes_ne_nil
  | cons b rest ih =>
    unfold fromColumn
    cases base with
    | zero =>
      rw [List.drop_zero] at h
      rw [headDelimiter?_eq_some_iff.2 h]
      exact List.mem_cons_self
    | succ base =>
      rw [List.drop_succ_cons] at h
      have hlater := ih (column + 1) h
      rw [Nat.add_right_comm] at hlater
      cases headDelimiter? (b :: rest) with
      | none => exact hlater
      | some d' => exact List.mem_cons_of_mem _ hlater

/-- The markers of a line are the delimiters whose bytes stand in it. -/
theorem mem_onLine_iff : m ∈ onLine text number ↔
    m.position.line = number ∧ m.delimiter.bytes <+: text.drop m.position.column := by
  constructor
  · intro hm
    exact ⟨line_of_mem_onLine hm, bytes_prefix_of_mem_onLine hm⟩
  · rcases m with ⟨d, ⟨line, column⟩⟩
    rintro ⟨rfl, h⟩
    have hmem := mem_fromColumn line 0 h
    rw [Nat.zero_add] at hmem
    exact hmem

theorem pairwise_column_onLine (text : Bytes) (number : Nat) :
    (onLine text number).Pairwise fun a b => a.position.column < b.position.column := by
  refine (pairwise_onLine text number).imp_of_mem fun {a b} ha hb hlt => ?_
  have hline := line_of_mem_onLine ha
  have hline' := line_of_mem_onLine hb
  rw [Position.lt_def] at hlt
  omega

/-! ## Scans -/

/-- A text was to be cut beyond its end. -/
structure CutBeyond where
  start : Nat
  size : Nat
deriving DecidableEq, Repr

/-- What follows the first `start` bytes of a text; there must be as many. -/
def cutFrom (text : Bytes) (start : Nat) : Except CutBeyond Bytes :=
  if start ≤ text.length then .ok (text.drop start) else .error ⟨start, text.length⟩

/-- The columns from `base` on at which the needle stands. Each search begins one byte past the
start of the place found last, so that places may overlap. -/
def columnsFrom (needle text : Bytes) (base : Nat) : Except CutBeyond (List Nat) :=
  if _h : base < text.length then
    match cutFrom text base with
    | .error e => .error e
    | .ok rest =>
      match firstOccurrence? needle 0 rest with
      | none => .ok []
      | some i => (columnsFrom needle text (base + i + 1)).map fun later => (base + i) :: later
  else .ok []
termination_by text.length - base

/-- What the scan for a delimiter finds. -/
def scanFor (text : Bytes) (number : Nat) (d : Delimiter) : Except CutBeyond (List Marker) :=
  (columnsFrom d.bytes text 0).map fun columns => columns.map fun column => ⟨d, ⟨number, column⟩⟩

/-- What the scans for some delimiters find, one scan after the other. -/
def scanEach (text : Bytes) (number : Nat) : List Delimiter → Except CutBeyond (List Marker)
  | [] => .ok []
  | d :: rest => do
    let here ← scanFor text number d
    let others ← scanEach text number rest
    return here ++ others

/-- What the scans for all delimiters find, in the order of the columns. -/
def scanLine (text : Bytes) (number : Nat) : Except CutBeyond (List Marker) := do
  let found ← scanEach text number Delimiter.all
  return found.mergeSort fun a b => a.position.column ≤ b.position.column

/-! ## What a scan finds -/

/-- Where no first place is found, the needle stands nowhere. -/
theorem not_prefix_of_firstOccurrence?_eq_none (h : firstOccurrence? needle column text = none)
    (i : Nat) : ¬ needle <+: text.drop i := by
  induction text generalizing column i with
  | nil =>
    intro hprefix
    rw [List.drop_nil, List.prefix_nil] at hprefix
    simp [firstOccurrence?, hprefix] at h
  | cons b rest ih =>
    unfold firstOccurrence? at h
    split at h
    · cases h
    · rename_i hhere
      cases i with
      | zero => exact fun hprefix => hhere (List.isPrefixOf_iff_prefix.2 hprefix)
      | succ i => exact ih h i

/-- The needle stands at the place that is found, and at no earlier one. -/
theorem prefix_of_firstOccurrence?_eq_some {found : Nat}
    (h : firstOccurrence? needle column text = some found) :
    ∃ i, found = column + i ∧ needle <+: text.drop i ∧ ∀ j < i, ¬ needle <+: text.drop j := by
  induction text generalizing column with
  | nil =>
    unfold firstOccurrence? at h
    split at h
    · rename_i hempty
      cases h
      refine ⟨0, rfl, ?_, fun j hj => absurd hj (Nat.not_lt_zero j)⟩
      rw [List.isEmpty_iff.1 hempty]
      exact List.nil_prefix
    · cases h
  | cons b rest ih =>
    unfold firstOccurrence? at h
    split at h
    · rename_i hhere
      cases h
      refine ⟨0, rfl, List.isPrefixOf_iff_prefix.1 hhere, ?_⟩
      exact fun j hj => absurd hj (Nat.not_lt_zero j)
    · rename_i hhere
      rcases ih h with ⟨i, rfl, hprefix, hearlier⟩
      refine ⟨i + 1, by omega, hprefix, ?_⟩
      intro j hj
      cases j with
      | zero => exact fun hprefix => hhere (List.isPrefixOf_iff_prefix.2 hprefix)
      | succ j => exact hearlier j (Nat.lt_of_succ_lt_succ hj)

/-- Within the line a cut succeeds, and the scan goes on past the place that is found there. -/
theorem columnsFrom_of_lt (hbase : base < text.length) : columnsFrom needle text base =
    match firstOccurrence? needle 0 (text.drop base) with
    | none => .ok []
    | some i => (columnsFrom needle text (base + i + 1)).map fun later => (base + i) :: later := by
  have hcut : cutFrom text base = .ok (text.drop base) := if_pos (Nat.le_of_lt hbase)
  rw [columnsFrom, dif_pos hbase, hcut]

/-- A scan never cuts the line beyond its end. It finds the places from `base` on where the needle
stands, from left to right. -/
theorem columnsFrom_spec (hneedle : needle ≠ []) (text : Bytes) (base : Nat) :
    ∃ columns, columnsFrom needle text base = .ok columns ∧
      columns.Pairwise (· < ·) ∧
      ∀ column, column ∈ columns ↔ base ≤ column ∧ needle <+: text.drop column := by
  -- each search leaves less of the line to the next one
  induction hleft : text.length - base using Nat.strongRecOn generalizing base with
  | ind left ih =>
    by_cases hbase : base < text.length
    · have hdrop : ∀ column, base ≤ column →
          text.drop column = (text.drop base).drop (column - base) := by
        intro column hle
        rw [List.drop_drop, Nat.add_sub_of_le hle]
      rw [columnsFrom_of_lt hbase]
      cases hfound : firstOccurrence? needle 0 (text.drop base) with
      | none =>
        refine ⟨[], rfl, .nil, fun column => iff_of_false List.not_mem_nil ?_⟩
        rintro ⟨hle, hprefix⟩
        rw [hdrop column hle] at hprefix
        exact not_prefix_of_firstOccurrence?_eq_none hfound _ hprefix
      | some i =>
        rcases prefix_of_firstOccurrence?_eq_some hfound with ⟨i', hi, hprefix, hearlier⟩
        rw [Nat.zero_add] at hi
        subst hi
        rcases ih (text.length - (base + i + 1)) (by omega) (base + i + 1) rfl with
          ⟨later, hlater, hsorted, hmem⟩
        refine ⟨(base + i) :: later, by simp only [hlater, Except.map], ?_, ?_⟩
        · refine .cons (fun column hcolumn => ?_) hsorted
          have hle := ((hmem column).1 hcolumn).1
          omega
        · intro column
          rw [List.mem_cons, hmem]
          constructor
          · rintro (rfl | ⟨hle, hprefix'⟩)
            · rw [hdrop _ (Nat.le_add_right base i), Nat.add_sub_cancel_left]
              exact ⟨Nat.le_add_right base i, hprefix⟩
            · exact ⟨by omega, hprefix'⟩
          · rintro ⟨hle, hprefix'⟩
            -- nothing is passed over before the place that is found
            have hnot : ¬ column - base < i := by
              intro hlt
              rw [hdrop column hle] at hprefix'
              exact hearlier _ hlt hprefix'
            by_cases heq : column = base + i
            · exact .inl heq
            · exact .inr ⟨by omega, hprefix'⟩
    · refine ⟨[], by rw [columnsFrom, dif_neg hbase], .nil, fun column => ?_⟩
      refine iff_of_false List.not_mem_nil ?_
      rintro ⟨hle, hprefix⟩
      rw [List.drop_eq_nil_of_le (by omega), List.prefix_nil] at hprefix
      exact hneedle hprefix

/-- The scan for a delimiter finds it wherever its bytes stand. -/
theorem scanFor_spec (text : Bytes) (number : Nat) (d : Delimiter) :
    ∃ found, scanFor text number d = .ok found ∧ found.Nodup ∧
      ∀ m, m ∈ found ↔ m.delimiter = d ∧ m.position.line = number ∧
        m.delimiter.bytes <+: text.drop m.position.column := by
  rcases columnsFrom_spec d.bytes_ne_nil text 0 with ⟨columns, hcolumns, hsorted, hmem⟩
  refine ⟨columns.map fun column => ⟨d, ⟨number, column⟩⟩, ?_, ?_, ?_⟩
  · rw [scanFor, hcolumns]
    rfl
  · refine List.pairwise_map.2 (hsorted.imp fun {a b} hlt heq => ?_)
    simp only [mk.injEq, Position.mk.injEq] at heq
    omega
  · intro m
    rw [List.mem_map]
    constructor
    · rintro ⟨column, hcolumn, rfl⟩
      exact ⟨rfl, rfl, ((hmem column).1 hcolumn).2⟩
    · rcases m with ⟨d', ⟨line, column⟩⟩
      rintro ⟨rfl, rfl, hprefix⟩
      exact ⟨column, (hmem column).2 ⟨Nat.zero_le column, hprefix⟩, rfl⟩

/-- The scans for some delimiters find each of them wherever its bytes stand. -/
theorem scanEach_spec (text : Bytes) (number : Nat) {delimiters : List Delimiter}
    (hnodup : delimiters.Nodup) :
    ∃ found, scanEach text number delimiters = .ok found ∧ found.Nodup ∧
      ∀ m, m ∈ found ↔ m.delimiter ∈ delimiters ∧ m.position.line = number ∧
        m.delimiter.bytes <+: text.drop m.position.column := by
  induction delimiters with
  | nil => exact ⟨[], rfl, List.nodup_nil, fun m => by simp⟩
  | cons d rest ih =>
    rcases List.nodup_cons.1 hnodup with ⟨hnew, hrest⟩
    rcases scanFor_spec text number d with ⟨here, hhere, hhereNodup, hmemHere⟩
    rcases ih hrest with ⟨others, hothers, hothersNodup, hmemOthers⟩
    refine ⟨here ++ others, ?_, ?_, ?_⟩
    · rw [scanEach, hhere, hothers]
      rfl
    · refine List.nodup_append.2 ⟨hhereNodup, hothersNodup, ?_⟩
      rintro m hm m' hm' rfl
      -- what the other scans find are other delimiters
      have hd := ((hmemHere m).1 hm).1
      have hother := ((hmemOthers m).1 hm').1
      rw [hd] at hother
      exact hnew hother
    · intro m
      rw [List.mem_append, hmemHere, hmemOthers, List.mem_cons, ← or_and_right]

/-- All that the scans find together are the markers of the line, each once. -/
theorem scanEach_all (text : Bytes) (number : Nat) :
    ∃ found, scanEach text number Delimiter.all = .ok found ∧ found.Perm (onLine text number) := by
  have hall : Delimiter.all.Nodup := by decide
  rcases scanEach_spec text number hall with ⟨found, hfound, hnodup, hmem⟩
  have honLine : (onLine text number).Nodup :=
    (pairwise_column_onLine text number).imp fun hlt heq => by
      rw [heq] at hlt
      exact Nat.lt_irrefl _ hlt
  refine ⟨found, hfound, (List.perm_ext_iff_of_nodup hnodup honLine).2 fun m => ?_⟩
  rw [hmem, mem_onLine_iff, and_iff_right m.delimiter.mem_all]

/-- No two markers of a line share a column. -/
theorem eq_of_column_eq {m' : Marker} (hm : m ∈ onLine text number) (hm' : m' ∈ onLine text number)
    (hcolumn : m.position.column = m'.position.column) : m = m' := by
  rcases m with ⟨d, ⟨line, column⟩⟩
  rcases m' with ⟨d', ⟨line', column'⟩⟩
  rcases mem_onLine_iff.1 hm with ⟨hline, hprefix⟩
  rcases mem_onLine_iff.1 hm' with ⟨hline', hprefix'⟩
  simp only at hcolumn hline hline' hprefix hprefix'
  subst hcolumn hline hline'
  rw [Delimiter.prefix_unique hprefix hprefix']

/-- However the markers of a line are put in the order of their columns, the outcome is the same. -/
theorem eq_onLine_of_sorted {sorted : List Marker} (hperm : sorted.Perm (onLine text number))
    (hsorted : sorted.Pairwise fun a b => a.position.column ≤ b.position.column) :
    sorted = onLine text number := by
  have honLine : (onLine text number).Pairwise fun a b => a.position.column ≤ b.position.column :=
    (pairwise_column_onLine text number).imp Nat.le_of_lt
  refine hperm.eq_of_pairwise ?_ hsorted honLine
  intro a b ha hb hle hge
  exact eq_of_column_eq (hperm.mem_iff.1 ha) hb (Nat.le_antisymm hle hge)

theorem scanLine_eq (text : Bytes) (number : Nat) :
    scanLine text number = .ok (onLine text number) := by
  rcases scanEach_all text number with ⟨found, hfound, hperm⟩
  let le (a b : Marker) : Bool := a.position.column ≤ b.position.column
  have hsorted : (found.mergeSort le).Pairwise fun a b =>
      a.position.column ≤ b.position.column := by
    have hpairwise : (found.mergeSort le).Pairwise fun a b => le a b = true :=
      List.pairwise_mergeSort (by simp [le]; omega) (by simp [le]; omega) found
    exact hpairwise.imp fun h => of_decide_eq_true h
  have hsame := eq_onLine_of_sorted ((List.mergeSort_perm found le).trans hperm) hsorted
  rw [scanLine, hfound]
  exact congrArg Except.ok hsame

/-- The markers of a line are exactly the delimiters whose bytes stand in it, each at its column,
from left to right; no two stand at one column, though they may overlap. They are found just so by a
scan for each delimiter: no scan cuts the line beyond its end, no two markers that the scans find
share a column, and all ways to put them in the order of their columns come to the same. -/
theorem onLine_is_exact (text : Bytes) (number : Nat) :
    let markers := onLine text number
    (∀ d p, ⟨d, p⟩ ∈ markers ↔ p.line = number ∧ d.bytes <+: text.drop p.column) ∧
    markers.Pairwise (fun a b => a.position.column < b.position.column) ∧
    (∀ (column : Nat) (d d' : Delimiter), d.bytes <+: text.drop column →
      d'.bytes <+: text.drop column → d = d') ∧
    (∃ found, scanEach text number Delimiter.all = .ok found ∧
      found.Pairwise (fun a b => a.position.column ≠ b.position.column) ∧
      ∀ sorted, sorted.Perm found →
        sorted.Pairwise (fun a b => a.position.column ≤ b.position.column) → sorted = markers) ∧
    scanLine text number = .ok markers := by
  intro markers
  refine ⟨fun d p => mem_onLine_iff, pairwise_column_onLine text number,
    fun column d d' => Delimiter.prefix_unique, ?_, scanLine_eq text number⟩
  rcases scanEach_all text number with ⟨found, hfound, hperm⟩
  refine ⟨found, hfound, ?_, ?_⟩
  · have hdistinct := (pairwise_column_onLine text number).imp fun {a b} => Nat.ne_of_lt
    exact (hperm.symm.pairwise_iff Ne.symm).1 hdistinct
  · intro sorted hsame hsorted
    exact eq_onLine_of_sorted (hsame.trans hperm) hsorted

/-- In `/*/*/` the four comment marks overlap, and all are found. -/
theorem onLine_is_exact_overlapping :
    let opener : Delimiter := ⟨.comment, .opener⟩
    let closer : Delimiter := ⟨.comment, .closer⟩
    scanLine [0x2F, 0x2A, 0x2F, 0x2A, 0x2F] 7 = .ok
      [⟨opener, ⟨7, 0⟩⟩, ⟨closer, ⟨7, 1⟩⟩, ⟨opener, ⟨7, 2⟩⟩, ⟨closer, ⟨7, 3⟩⟩] := by
  intro opener closer
  rw [(onLine_is_exact [0x2F, 0x2A, 0x2F, 0x2A, 0x2F] 7).2.2.2.2]
  rfl

end Marker

end ScopeSearch
