import ScopeSearch.Proofs.Marker.Order

/-!
# ScopeSearch.Proofs.Marker.Occurrence — markers are in the text

Every marker of a line stands for bytes of that line: those of its delimiter, from its column on
(`bytes_prefix_of_mem_onLine`). `Delimiter.StandsAt` says so of a place in many lines.
-/

namespace ScopeSearch

/-- The bytes of the delimiter stand at the place, on one of the lines. -/
def Delimiter.StandsAt (d : Delimiter) (lines : List Bytes) (p : Position) : Prop :=
  ∃ line, lines[p.line]? = some line ∧ d.bytes <+: line.drop p.column

/-- What stands on some lines still does if more lines follow. -/
theorem Delimiter.StandsAt.mono {d : Delimiter} {before lines : List Bytes} {p : Position}
    (h : d.StandsAt before p) (hbegin : before <+: lines) : d.StandsAt lines p := by
  rcases h with ⟨line, hline, hbytes⟩
  rcases hbegin with ⟨after, rfl⟩
  have hlt : p.line < before.length := (List.getElem?_eq_some_iff.1 hline).1
  refine ⟨line, ?_, hbytes⟩
  rw [List.getElem?_append_left hlt]
  exact hline

namespace Marker

theorem bytes_prefix_of_headDelimiter? {text : Bytes} {d : Delimiter}
    (hd : headDelimiter? text = some d) : d.bytes <+: text := by
  unfold headDelimiter? at hd
  have hfits := List.find?_some hd
  exact List.isPrefixOf_iff_prefix.1 hfits

/-- What is found from a column on is there, as many bytes further as its own column says. -/
theorem bytes_prefix_of_mem_fromColumn {number column : Nat} {text : Bytes} {m : Marker}
    (hm : m ∈ fromColumn number column text) :
    m.delimiter.bytes <+: text.drop (m.position.column - column) := by
  induction text generalizing column with
  | nil => cases hm
  | cons b rest ih =>
    have hlater : m ∈ fromColumn number (column + 1) rest →
        m.delimiter.bytes <+: (b :: rest).drop (m.position.column - column) := by
      intro hm
      -- further on there is one byte less to go past
      have hcolumn := (position_of_mem_fromColumn hm).2
      have hdrop : m.position.column - column = m.position.column - (column + 1) + 1 := by omega
      rw [hdrop, List.drop_succ_cons]
      exact ih hm
    unfold fromColumn at hm
    cases hd : headDelimiter? (b :: rest) with
    | none =>
      rw [hd] at hm
      exact hlater hm
    | some d =>
      rw [hd] at hm
      rcases List.mem_cons.1 hm with rfl | hm
      · rw [Nat.sub_self, List.drop_zero]
        exact bytes_prefix_of_headDelimiter? hd
      · exact hlater hm

/-- The bytes of a marker's delimiter stand at its column. -/
theorem bytes_prefix_of_mem_onLine {text : Bytes} {number : Nat} {m : Marker}
    (hm : m ∈ onLine text number) : m.delimiter.bytes <+: text.drop m.position.column :=
  bytes_prefix_of_mem_fromColumn hm

end Marker

end ScopeSearch
