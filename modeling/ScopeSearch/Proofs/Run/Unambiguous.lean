import ScopeSearch.Proofs.Run.Faults

/-!
# ScopeSearch.Proofs.Run.Unambiguous — what is written says what was reported

Reports are written one behind the other, with decimal numbers of any length and in two shapes. Each
part ends where the next one begins, so the bytes can be cut in one way only:

* `eq_of_repr_append` — a number ends before the first character that is no digit;
* `Position.eq_of_text_append`, `Report.eq_of_stopText_append` — so does a place, and the end of a
  range, which is a star or begins with a digit;
* `Report.eq_of_lineText_append` — so the line of one report is no beginning of that of another;
* `renderReports_injective` — and no two lists of reports are written alike.
-/

namespace ScopeSearch

variable {c d : Char} {rest rest' : List Char}

/-! ## Numbers -/

/-- What stands before the first character that is no digit is the number. -/
theorem takeWhile_repr_append (n : Nat) (hc : c.isDigit = false) (rest : List Char) :
    (n.repr.toList ++ c :: rest).takeWhile Char.isDigit = n.repr.toList := by
  rw [List.takeWhile_append_of_pos fun _ => isDigit_of_mem_repr,
    List.takeWhile_cons_of_neg (by simp [hc]), List.append_nil]

/-- Two numbers with no digit behind them are equal if their texts are together with what
follows. -/
theorem eq_of_repr_append {m n : Nat} (hc : c.isDigit = false) (hd : d.isDigit = false)
    (h : m.repr.toList ++ c :: rest = n.repr.toList ++ d :: rest') :
    m = n ∧ c :: rest = d :: rest' := by
  have hdigits := congrArg (List.takeWhile Char.isDigit) h
  rw [takeWhile_repr_append m hc, takeWhile_repr_append n hd] at hdigits
  have hvalue : Nat.ofDigitChars 10 m.repr.toList 0 = Nat.ofDigitChars 10 n.repr.toList 0 := by
    rw [hdigits]
  simp only [Nat.toList_repr, Nat.ofDigitChars_ten_toDigits] at hvalue
  rw [hdigits] at h
  exact ⟨hvalue, List.append_cancel_left h⟩

/-! ## Places and ranges -/

theorem Position.toList_text (p : Position) :
    p.text.toList = p.line.repr.toList ++ ':' :: p.column.repr.toList := by
  simp [text]

/-- A place ends before the first character behind its column that is no digit. -/
theorem Position.eq_of_text_append {p q : Position} (hc : c.isDigit = false)
    (hd : d.isDigit = false)
    (h : p.text.toList ++ c :: rest = q.text.toList ++ d :: rest') :
    p = q ∧ c :: rest = d :: rest' := by
  simp only [toList_text, List.append_assoc, List.cons_append] at h
  rcases eq_of_repr_append (by decide) (by decide) h with ⟨hline, hbehind⟩
  rcases eq_of_repr_append hc hd (List.cons.inj hbehind).2 with ⟨hcolumn, hrest⟩
  refine ⟨?_, hrest⟩
  rcases p with ⟨line, column⟩
  obtain rfl : line = q.line := hline
  obtain rfl : column = q.column := hcolumn
  rfl

namespace Report

variable {a b : Report} {stop stop' : Option Position}

/-- No place is printed with a star in front. -/
theorem text_append_ne_star (p : Position) : p.text.toList ++ rest ≠ '*' :: rest' := by
  intro h
  have hne : p.line.repr.toList ≠ [] := by simp [Nat.toList_repr]
  obtain ⟨b, digits, hdigits⟩ := List.exists_cons_of_ne_nil hne
  have hmem : b ∈ p.line.repr.toList := by simp [hdigits]
  rw [Position.toList_text, hdigits] at h
  obtain rfl : b = '*' := (List.cons.inj h).1
  exact absurd (isDigit_of_mem_repr hmem) (by decide)

/-- The end of a range is known from what is printed for it up to the line break. -/
theorem eq_of_stopText_append
    (h : ((stop.map Position.text).getD "*").toList ++ '\n' :: rest =
      ((stop'.map Position.text).getD "*").toList ++ '\n' :: rest') :
    stop = stop' ∧ rest = rest' := by
  cases stop with
  | none =>
    cases stop' with
    | none => exact ⟨rfl, (List.cons.inj (List.cons.inj h).2).2⟩
    | some q => exact absurd h.symm (text_append_ne_star q)
  | some p =>
    cases stop' with
    | none => exact absurd h (text_append_ne_star p)
    | some q =>
      rcases Position.eq_of_text_append (by decide) (by decide) h with ⟨rfl, hrest⟩
      exact ⟨rfl, (List.cons.inj hrest).2⟩

theorem toList_lineText_append (r : Report) (rest : List Char) :
    r.lineText.toList ++ rest =
      r.start.text.toList ++ ' ' :: '-' :: ' ' ::
        (((r.stop.map Position.text).getD "*").toList ++ '\n' :: rest) := by
  simp [lineText, text]

/-- A report is known from a text that begins with its line, and so is what follows. -/
theorem eq_of_lineText_append (h : a.lineText.toList ++ rest = b.lineText.toList ++ rest') :
    a = b ∧ rest = rest' := by
  rw [toList_lineText_append, toList_lineText_append] at h
  rcases Position.eq_of_text_append (by decide) (by decide) h with ⟨hstart, hbehind⟩
  have hstops := (List.cons.inj (List.cons.inj (List.cons.inj hbehind).2).2).2
  rcases eq_of_stopText_append hstops with ⟨hstop, hrest⟩
  refine ⟨?_, hrest⟩
  rcases a with ⟨start, stop⟩
  obtain rfl : start = b.start := hstart
  obtain rfl : stop = b.stop := hstop
  rfl

end Report

/-! ## Lists of reports -/

/-- The characters that are written for reports. -/
theorem renderReports_eq (reports : List Report) :
    renderReports reports =
      Text.utf8 (String.ofList (reports.flatMap fun r => r.lineText.toList)) := by
  have hline : renderReport = fun r => r.lineText.toList.flatMap String.utf8EncodeChar := by
    funext r
    rw [← Report.utf8_lineText, ← Text.utf8_ofList, String.ofList_toList]
  rw [renderReports, hline, Text.utf8_ofList, List.flatMap_assoc]

theorem flatMap_lineText_injective {before after : List Report}
    (h : (before.flatMap fun r => r.lineText.toList) = after.flatMap fun r => r.lineText.toList) :
    before = after := by
  have hne : ∀ r : Report, ∀ rest, r.lineText.toList ++ rest ≠ [] := by
    intro r rest
    simp [Report.lineText]
  induction before generalizing after with
  | nil =>
    cases after with
    | nil => rfl
    | cons b others => exact absurd h.symm (hne b _)
  | cons a rest ih =>
    cases after with
    | nil => exact absurd h (hne a _)
    | cons b others =>
      rw [List.flatMap_cons, List.flatMap_cons] at h
      rcases Report.eq_of_lineText_append h with ⟨rfl, hrest⟩
      rw [ih hrest]

/-- No two lists of reports are written alike. -/
theorem renderReports_injective {before after : List Report}
    (h : renderReports before = renderReports after) : before = after := by
  rw [renderReports_eq, renderReports_eq] at h
  exact flatMap_lineText_injective (String.ofList_injective (Text.utf8_injective h))

/-- A run writes reports, wherever it stands and if nothing fails, as their lines one behind the
other; and no two lists of reports are written alike, whatever numbers are in them. -/
theorem output_is_unambiguous (reports others : List Report) :
    (∀ p : Progress, (p.writeReports {} reports).map Progress.written =
      .ok (p.written ++ renderReports reports)) ∧
    (renderReports reports = renderReports others → reports = others) := by
  refine ⟨fun p => ?_, renderReports_injective⟩
  have hroom : ∀ bytes, Sink.overrun? {} bytes = none := fun bytes => rfl
  rcases Progress.writeReports_cases (hroom p.written) reports with
    ⟨room, fault, hover, -⟩ | ⟨-, hwrites⟩
  · rw [hroom] at hover
    cases hover
  · rw [hwrites]
    rfl

/-- Two searches, for different letters in different texts, write the same bytes, a line for a range
with an end and a line for one without; so both have reported the same. -/
theorem output_is_unambiguous_two_searches :
    let reported (letter : UInt8) (lines : List Bytes) : List Report :=
      Search.start.reportsFrom (.literal [letter]) {} lines none
    let reports := reported 0x61 [[0x28, 0x61, 0x29, 0x0A], [0x7B, 0x61, 0x0A]]
    let others := reported 0x62 [[0x28, 0x62, 0x29, 0x5D, 0x0A], [0x5B, 0x62, 0x62, 0x0A]]
    renderReports reports = Text.utf8 "0:0 - 0:2\n1:0 - *\n" ∧
      renderReports others = renderReports reports ∧ others = reports := by
  intro reported reports others
  have hbytes : renderReports reports = Text.utf8 "0:0 - 0:2\n1:0 - *\n" := by decide
  have hsame : renderReports others = renderReports reports := by decide
  exact ⟨hbytes, hsame, (output_is_unambiguous others reports).2 hsame⟩

end ScopeSearch
