import ScopeSearch.Proofs.Run.Faults
import ScopeSearch.Proofs.Search.Offline

/-!
# ScopeSearch.Proofs.Document.Scanning — the delimiters of a text

Delimiters are looked for on each line by itself. `Marker.inText` looks for them in a whole text and
counts lines and columns on the way. As no delimiter runs over a line break, both find the same:

* `Marker.inText_eq_onPieces` — the delimiters of a text are those of the pieces that its line
  breaks cut it into;
* `Offline.markersFrom_splitLines` — so if a text ends with a line break, they are those of its
  lines.
-/

namespace ScopeSearch

variable {p : Position} {b : UInt8} {text rest rest' : Bytes}

/-! ## Delimiters at the start of a text -/

namespace Marker

/-- A byte that is in no delimiter begins none. -/
theorem headDelimiter?_of_plain (hb : ∀ d : Delimiter, b ∉ d.bytes) (rest : Bytes) :
    headDelimiter? (b :: rest) = none := by
  unfold headDelimiter?
  rw [List.find?_eq_none]
  intro d _ hbegins
  rcases List.isPrefixOf_iff_prefix.1 hbegins with ⟨after, hafter⟩
  cases hbytes : d.bytes with
  | nil =>
    rcases d with ⟨pair, side⟩
    cases pair <;> cases side <;> cases hbytes
  | cons first others =>
    -- the delimiter would begin with the byte
    rw [hbytes] at hafter
    have hfirst : first = b := (List.cons.inj hafter).1
    exact hb d (by simp [hbytes, hfirst])

/-- Which delimiter a text begins with depends on its first two bytes alone. -/
theorem headDelimiter?_congr (h : rest.head? = rest'.head?) :
    headDelimiter? (b :: rest) = headDelimiter? (b :: rest') := by
  have hbegins : ∀ d : Delimiter,
      d.bytes.isPrefixOf (b :: rest) = d.bytes.isPrefixOf (b :: rest') := by
    rintro ⟨pair, side⟩
    cases rest <;> cases rest' <;> cases pair <;> cases side <;>
      simp_all [Delimiter.bytes, List.isPrefixOf]
  unfold headDelimiter?
  congr 1
  funext d
  exact hbegins d

theorem headDelimiter?_lineBreak (rest : Bytes) : headDelimiter? (lineBreak :: rest) = none := by
  refine headDelimiter?_of_plain ?_ rest
  rintro ⟨pair, side⟩
  cases pair <;> cases side <;> decide

end Marker

/-! ## Lines and columns -/

/-- The place after a byte that stands at `p`. -/
def Position.past (p : Position) (b : UInt8) : Position :=
  if b = lineBreak then ⟨p.line + 1, 0⟩ else ⟨p.line, p.column + 1⟩

/-- The delimiters in a text that begins at `p`, from left to right and line by line. -/
def Marker.inText : Position → Bytes → List Marker
  | _, [] => []
  | p, b :: rest =>
    (headDelimiter? (b :: rest)).toList.map (fun d => ⟨d, p⟩) ++ inText (p.past b) rest

/-- The delimiters on the pieces of a text. The first piece begins at `p`, each other one on a line
of its own. -/
def Marker.onPieces (p : Position) : List Bytes → List Marker
  | [] => []
  | piece :: rest =>
    fromColumn p.line p.column piece ++ Offline.markersFrom (p.line + 1) rest

/-- The pieces that the line breaks of a text cut it into: its lines, and what follows the last of
them. -/
def pieces (text : Bytes) : List Bytes :=
  (splitLines text).1 ++ [(splitLines text).2]

theorem pieces_lineBreak (rest : Bytes) : pieces (lineBreak :: rest) = [lineBreak] :: pieces rest := by
  unfold pieces
  rw [splitLines_lineBreak]
  rfl

/-- A byte other than a line break stands at the start of the first piece. -/
theorem pieces_cons (hb : b ≠ lineBreak) (rest : Bytes) :
    ∃ first others, pieces rest = first :: others ∧
      pieces (b :: rest) = (b :: first) :: others := by
  unfold pieces
  rw [splitLines_cons hb]
  rcases splitLines rest with ⟨lines, fragment⟩
  cases lines with
  | nil => exact ⟨fragment, [], rfl, rfl⟩
  | cons line lines => exact ⟨line, lines ++ [fragment], rfl, rfl⟩

/-- The first piece begins as the text does. -/
theorem head?_of_pieces_eq {first : Bytes} {others : List Bytes}
    (h : pieces text = first :: others) : first.head? = text.head? := by
  cases text with
  | nil =>
    simp only [pieces, splitLines_nil, List.nil_append, List.cons.injEq] at h
    rw [← h.1]
  | cons b rest =>
    by_cases hb : b = lineBreak
    · rw [hb, pieces_lineBreak] at h
      rw [hb, ← (List.cons.inj h).1]
      rfl
    · rcases pieces_cons hb rest with ⟨first', others', -, hpieces⟩
      rw [hpieces] at h
      rw [← (List.cons.inj h).1]
      rfl

theorem Marker.fromColumn_cons (number column : Nat) (b : UInt8) (rest : Bytes) :
    fromColumn number column (b :: rest) =
      (headDelimiter? (b :: rest)).toList.map (fun d => ⟨d, ⟨number, column⟩⟩) ++
        fromColumn number (column + 1) rest := by
  rw [fromColumn]
  cases headDelimiter? (b :: rest) <;> rfl

/-- The delimiters of a text are those of its pieces. -/
theorem Marker.inText_eq_onPieces (p : Position) (text : Bytes) :
    inText p text = onPieces p (pieces text) := by
  induction text generalizing p with
  | nil => simp [inText, onPieces, pieces, fromColumn, Offline.markersFrom]
  | cons b rest ih =>
    rw [inText, ih]
    by_cases hb : b = lineBreak
    · -- the next piece begins on the next line
      have hnext : p.past lineBreak = ⟨p.line + 1, 0⟩ := if_pos rfl
      rw [hb, headDelimiter?_lineBreak, hnext, pieces_lineBreak]
      rcases hpieces : pieces rest with - | ⟨first, others⟩
      · simp [pieces] at hpieces
      · simp only [onPieces, fromColumn_cons, headDelimiter?_lineBreak]
        rfl
    · have hnext : p.past b = ⟨p.line, p.column + 1⟩ := if_neg hb
      rcases pieces_cons hb rest with ⟨first, others, hrest, hall⟩
      have hhead := headDelimiter?_congr (b := b) (head?_of_pieces_eq hrest)
      rw [hrest, hall, hnext, onPieces, onPieces, fromColumn_cons, hhead, List.append_assoc]

/-- A text that ends with a line break has nothing after its last line. -/
theorem splitLines_concat_lineBreak (text : Bytes) : (splitLines (text ++ [lineBreak])).2 = [] := by
  induction text with
  | nil => rw [List.nil_append, splitLines_lineBreak, splitLines_nil]
  | cons b rest ih =>
    rw [List.cons_append]
    by_cases hb : b = lineBreak
    · rw [hb, splitLines_lineBreak]
      exact ih
    · have hlines : (splitLines (rest ++ [lineBreak])).1 ≠ [] := by
        rw [← List.length_pos_iff, length_splitLines, List.count_append]
        simp
      rw [splitLines_cons hb]
      rcases hsplit : splitLines (rest ++ [lineBreak]) with ⟨lines, fragment⟩
      rw [hsplit] at ih hlines
      cases lines with
      | nil => exact absurd rfl hlines
      | cons line lines => exact ih

/-- The delimiters of a text that ends with a line break are those of its lines. -/
theorem Offline.markersFrom_splitLines (text : Bytes) :
    markersFrom 0 (splitLines (text ++ [lineBreak])).1 =
      Marker.inText .origin (text ++ [lineBreak]) := by
  have hfragment := splitLines_concat_lineBreak text
  have hpieces : Marker.onPieces .origin (pieces (text ++ [lineBreak])) =
      markersFrom 0 (pieces (text ++ [lineBreak])) := by
    cases pieces (text ++ [lineBreak]) <;> rfl
  rw [Marker.inText_eq_onPieces, hpieces, pieces, hfragment, markersFrom_append]
  exact (List.append_nil _).symm

end ScopeSearch
