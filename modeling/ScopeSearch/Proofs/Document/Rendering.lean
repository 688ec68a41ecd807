import ScopeSearch.Proofs.Document.Scanning
import ScopeSearch.Proofs.Marker.Scan

/-!
# ScopeSearch.Proofs.Document.Rendering — documents and how they are written

A document is made of words, line breaks and groups, and a group holds a document between the two
delimiters of a pair. It is written token by token with one space between neighbours, so that no two
delimiters run together into a third.

* `Marker.inText_plain`, `Marker.inText_delimiter` — the delimiters in a word and in a delimiter;
* `Document.inText_render` — the delimiters in the text of a document are those of its groups;
* `Document.markersFrom_lines` — so they are in the lines of that text.
-/

namespace ScopeSearch

/-- The byte stands in no delimiter. -/
def Plain (b : UInt8) : Prop :=
  ∀ d ∈ Delimiter.all, b ∉ d.bytes

instance (b : UInt8) : Decidable (Plain b) :=
  inferInstanceAs (Decidable (∀ d ∈ Delimiter.all, b ∉ d.bytes))

/-- A word: some bytes, none of which is a line break or stands in a delimiter. -/
structure Word where
  bytes : Bytes
  nonempty : bytes ≠ []
  plain : ∀ b ∈ bytes, b ≠ lineBreak ∧ Plain b

/-- A document: words, line breaks and groups, one after the other. A group is a document between
the two delimiters of a pair. -/
inductive Document where
  | nil
  | word (w : Word) (rest : Document)
  | newline (rest : Document)
  | group (pair : Pair) (inner rest : Document)

/-- The delimiter that opens a group. -/
def Pair.opener (pair : Pair) : Delimiter := ⟨pair, .opener⟩

/-- The delimiter that closes a group. -/
def Pair.closer (pair : Pair) : Delimiter := ⟨pair, .closer⟩

/-! ## Writing -/

/-- The place `n` columns to the right. -/
def Position.right (p : Position) (n : Nat) : Position :=
  ⟨p.line, p.column + n⟩

/-- Where a token goes that is written at `p`: past a space, unless it is the first of its line. -/
def Position.token (p : Position) : Position :=
  if p.column = 0 then p else p.right 1

/-- The place after the token. -/
def Position.afterToken (p : Position) (text : Bytes) : Position :=
  p.token.right text.length

/-- A token as it is written at `p`. -/
def written (p : Position) (text : Bytes) : Bytes :=
  if p.column = 0 then text else 0x20 :: text

namespace Document

/-- Where a document ends that is written at `p`. -/
def stop : Position → Document → Position
  | p, nil => p
  | p, word w rest => rest.stop (p.afterToken w.bytes)
  | p, newline rest => rest.stop ⟨p.line + 1, 0⟩
  | p, group pair inner rest =>
    rest.stop ((inner.stop (p.afterToken pair.opener.bytes)).afterToken pair.closer.bytes)

/-- A document as it is written at `p`. -/
def render : Position → Document → Bytes
  | _, nil => []
  | p, word w rest => written p w.bytes ++ rest.render (p.afterToken w.bytes)
  | p, newline rest => lineBreak :: rest.render ⟨p.line + 1, 0⟩
  | p, group pair inner rest =>
    let inside := p.afterToken pair.opener.bytes
    let last := inner.stop inside
    written p pair.opener.bytes ++ inner.render inside ++ written last pair.closer.bytes ++
      rest.render (last.afterToken pair.closer.bytes)

/-- The delimiters of the groups, in the order they are written. -/
def markers : Position → Document → List Marker
  | _, nil => []
  | p, word w rest => rest.markers (p.afterToken w.bytes)
  | p, newline rest => rest.markers ⟨p.line + 1, 0⟩
  | p, group pair inner rest =>
    let inside := p.afterToken pair.opener.bytes
    let last := inner.stop inside
    ⟨pair.opener, p.token⟩ :: inner.markers inside ++ ⟨pair.closer, last.token⟩ ::
      rest.markers (last.afterToken pair.closer.bytes)

/-- The lines of the document, which ends with a line break. -/
def lines (doc : Document) : List Bytes :=
  (splitLines (doc.render .origin ++ [lineBreak])).1

end Document

/-! ## Delimiters in tokens -/

variable {p : Position} {text more : Bytes}

namespace Marker

theorem inText_cons_of_ne {b : UInt8} (hb : b ≠ lineBreak) (p : Position) (rest : Bytes) :
    inText p (b :: rest) =
      (headDelimiter? (b :: rest)).toList.map (fun d => ⟨d, p⟩) ++ inText (p.right 1) rest := by
  rw [inText, Position.past, if_neg hb]
  rfl

/-- No delimiter stands in a word. -/
theorem inText_plain (hplain : ∀ b ∈ text, b ≠ lineBreak ∧ Plain b) (p : Position)
    (more : Bytes) : inText p (text ++ more) = inText (p.right text.length) more := by
  induction text generalizing p with
  | nil => rfl
  | cons b rest ih =>
    rcases hplain b List.mem_cons_self with ⟨hbreak, hb⟩
    have hnone : headDelimiter? (b :: (rest ++ more)) = none :=
      headDelimiter?_of_plain (fun d => hb d d.mem_all) (rest ++ more)
    have hright : (p.right 1).right rest.length = p.right (b :: rest).length := by
      simp only [Position.right, List.length_cons, Nat.add_assoc, Nat.add_comm 1]
    rw [List.cons_append, inText_cons_of_ne hbreak, hnone,
      ih (fun c hc => hplain c (List.mem_cons_of_mem b hc)), hright]
    rfl

/-- The second byte of a delimiter begins no other one, unless what follows helps. -/
theorem headDelimiter?_of_second {first second : UInt8} {d : Delimiter}
    (hd : d.bytes = [first, second]) (hmore : ∀ b ∈ more.head?, Plain b) :
    headDelimiter? (second :: more) = none := by
  have hcomment : second = 0x2F ∨ second = 0x2A := by
    rcases d with ⟨pair, side⟩
    cases pair <;> cases side <;> simp_all [Delimiter.bytes]
  cases more with
  | nil => rcases hcomment with rfl | rfl <;> decide
  | cons b rest =>
    have hb : b ∉ [(0x2F : UInt8), 0x2A] := hmore b rfl ⟨.comment, .opener⟩ (by decide)
    have hslash : (0x2F : UInt8) ≠ b := by
      rintro rfl
      simp at hb
    have hstar : (0x2A : UInt8) ≠ b := by
      rintro rfl
      simp at hb
    rcases hcomment with rfl | rfl <;>
      simp [headDelimiter?, Delimiter.all, Delimiter.bytes, hslash, hstar]

theorem bytes_cases (d : Delimiter) :
    (∃ b, d.bytes = [b] ∧ b ≠ lineBreak) ∨
      ∃ first second, d.bytes = [first, second] ∧ first ≠ lineBreak ∧ second ≠ lineBreak := by
  rcases d with ⟨pair, side⟩
  cases pair <;> cases side <;> simp [Delimiter.bytes, lineBreak]

/-- Before a byte that stands in no delimiter, a delimiter stands for itself alone. -/
theorem inText_delimiter (d : Delimiter) (p : Position) (hmore : ∀ b ∈ more.head?, Plain b) :
    inText p (d.bytes ++ more) = ⟨d, p⟩ :: inText (p.right d.bytes.length) more := by
  have hhead := headDelimiter?_eq_some_iff.2 (List.prefix_append d.bytes more)
  rcases bytes_cases d with ⟨b, hd, hb⟩ | ⟨first, second, hd, hfirst, hsecond⟩
  · rw [hd, List.singleton_append] at hhead
    rw [hd, List.singleton_append, inText_cons_of_ne hb, hhead]
    rfl
  · have hnone := headDelimiter?_of_second hd hmore
    rw [hd] at hhead
    rw [hd, List.cons_append, inText_cons_of_ne hfirst, ← List.cons_append, hhead,
      List.singleton_append, inText_cons_of_ne hsecond, hnone]
    rfl

/-- A token stands where it goes. -/
theorem inText_written (p : Position) (text more : Bytes) :
    inText p (written p text ++ more) = inText p.token (text ++ more) := by
  unfold written Position.token
  split
  · rfl
  · have hspace : ∀ b ∈ [(0x20 : UInt8)], b ≠ lineBreak ∧ Plain b :=
      List.forall_mem_singleton.2 (by decide)
    exact inText_plain hspace p (text ++ more)

end Marker

/-! ## Delimiters in documents -/

/-- At the start of a line, or before a byte that stands in no delimiter. -/
def Parted (p : Position) (more : Bytes) : Prop :=
  p.column ≠ 0 → ∀ b ∈ more.head?, Plain b

theorem Position.column_afterToken_ne_zero (p : Position) (d : Delimiter) :
    (p.afterToken d.bytes).column ≠ 0 := by
  have hlength : 0 < d.bytes.length := by
    rcases d with ⟨pair, side⟩
    cases pair <;> cases side <;> decide
  show p.token.column + d.bytes.length ≠ 0
  omega

theorem parted_written (p : Position) (text more : Bytes) : Parted p (written p text ++ more) := by
  intro hcolumn b hb
  unfold written at hb
  rw [if_neg hcolumn] at hb
  cases hb
  decide

namespace Document

/-- A document begins in a way that keeps it apart from what stands before it. -/
theorem parted_render (doc : Document) (p : Position) (h : Parted (doc.stop p) more) :
    Parted p (doc.render p ++ more) := by
  cases doc with
  | nil => exact h
  | word w rest =>
    rw [render, List.append_assoc]
    exact parted_written p w.bytes _
  | newline rest =>
    intro _ b hb
    cases hb
    decide
  | group pair inner rest =>
    rw [render, List.append_assoc, List.append_assoc, List.append_assoc]
    exact parted_written p pair.opener.bytes _

/-- The delimiters in the text of a document are those of its groups. -/
theorem inText_render (doc : Document) (p : Position) (h : Parted (doc.stop p) more) :
    Marker.inText p (doc.render p ++ more) =
      doc.markers p ++ Marker.inText (doc.stop p) more := by
  induction doc generalizing p more with
  | nil => rfl
  | word w rest ih =>
    rw [render, List.append_assoc, Marker.inText_written, Marker.inText_plain w.plain]
    exact ih (p.afterToken w.bytes) h
  | newline rest ih =>
    rw [render, List.cons_append, Marker.inText, Marker.headDelimiter?_lineBreak]
    exact ih ⟨p.line + 1, 0⟩ h
  | group pair inner rest ihInner ihRest =>
    let inside := p.afterToken pair.opener.bytes
    let last := inner.stop inside
    let after := last.afterToken pair.closer.bytes
    let closing := written last pair.closer.bytes ++ (rest.render after ++ more)
    have hrest : Parted after (rest.render after ++ more) := rest.parted_render after h
    have hclosing : Parted last closing := parted_written last pair.closer.bytes _
    have hinner : Parted inside (inner.render inside ++ closing) :=
      inner.parted_render inside hclosing
    have hinside : inside.column ≠ 0 := p.column_afterToken_ne_zero pair.opener
    have hafter : after.column ≠ 0 := last.column_afterToken_ne_zero pair.closer
    calc Marker.inText p ((group pair inner rest).render p ++ more)
        = Marker.inText p (written p pair.opener.bytes ++ (inner.render inside ++ closing)) := by
          simp only [render, closing, inside, last, after, List.append_assoc]
      _ = ⟨pair.opener, p.token⟩ :: Marker.inText inside (inner.render inside ++ closing) := by
          rw [Marker.inText_written, Marker.inText_delimiter _ _ (hinner hinside)]
          rfl
      _ = ⟨pair.opener, p.token⟩ :: (inner.markers inside ++ Marker.inText last closing) := by
          rw [ihInner inside hclosing]
      _ = ⟨pair.opener, p.token⟩ :: (inner.markers inside ++ ⟨pair.closer, last.token⟩ ::
            Marker.inText after (rest.render after ++ more)) := by
          rw [Marker.inText_written, Marker.inText_delimiter _ _ (hrest hafter)]
          rfl
      _ = (group pair inner rest).markers p ++ Marker.inText (rest.stop after) more := by
          rw [ihRest after h]
          simp only [markers, inside, last, after, List.append_assoc, List.cons_append]

/-- The delimiters in the lines of a document are those of its groups. -/
theorem markersFrom_lines (doc : Document) :
    Offline.markersFrom 0 doc.lines = doc.markers .origin := by
  have hlast : Parted (doc.stop .origin) [lineBreak] := by
    intro _ b hb
    cases hb
    decide
  have hnone : ∀ p, Marker.inText p [lineBreak] = [] := by
    intro p
    rw [Marker.inText, Marker.headDelimiter?_lineBreak]
    rfl
  rw [lines, Offline.markersFrom_splitLines, inText_render doc .origin hlast, hnone,
    List.append_nil]

/-- A parenthesis with a word in it, a line break and an empty comment, written `( a`, `/* */ )`. -/
example :
    let a : Word := ⟨[0x61], by decide, List.forall_mem_singleton.2 (by decide)⟩
    (group .paren (word a (newline (group .comment nil nil))) nil).lines =
      [[0x28, 0x20, 0x61, 0x0A], [0x2F, 0x2A, 0x20, 0x2A, 0x2F, 0x20, 0x29, 0x0A]] := by
  decide

end Document

end ScopeSearch
