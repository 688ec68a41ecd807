/-!
# ScopeSearch.Text.Utf8 — bytes and the characters they spell

Input is read as bytes, and nothing promises that they spell characters.

* `headOf` says what stands at the head of a byte text: a character with the number of bytes that
  spell it, or the longest stretch that begins a character and does not finish it.
* `lossy` reads a whole byte text, with U+FFFD for every such stretch.
* `utf8` and `ofUtf8?` go between character texts and the byte texts that spell one.
-/

namespace ScopeSearch

/-- A text as it is read: bytes, which need not spell characters. -/
abbrev Bytes := List UInt8

namespace Text

/-! ## The head of a byte text -/

/-- What stands at the head of a byte text, and over how many bytes. -/
inductive Head where
  /-- A character, spelled in full. -/
  | char (c : Char) (width : Nat)
  /-- The longest stretch that begins a character without finishing it, or a byte that begins
  none. -/
  | malformed (width : Nat)
deriving DecidableEq, Repr

/-- The number of bytes that the head takes. -/
def Head.width : Head → Nat
  | .char _ width => width
  | .malformed width => width

/-- The range of a byte that continues a character. -/
def continuation : UInt8 × UInt8 := (0x80, 0xBF)

/-- The ranges that the bytes after the leading byte `b` have to lie in, or `none` if `b` leads no
character. The narrower second ranges shut out overlong spellings, surrogates and everything
beyond U+10FFFF. -/
def followers (b : UInt8) : Option (List (UInt8 × UInt8)) :=
  if b < 0x80 then some []
  else if b < 0xC2 then none
  else if b < 0xE0 then some [continuation]
  else if b = 0xE0 then some [(0xA0, 0xBF), continuation]
  else if b = 0xED then some [(0x80, 0x9F), continuation]
  else if b < 0xF0 then some [continuation, continuation]
  else if b = 0xF0 then some [(0x90, 0xBF), continuation, continuation]
  else if b < 0xF4 then some [continuation, continuation, continuation]
  else if b = 0xF4 then some [(0x80, 0x8F), continuation, continuation]
  else none

/-- How many bytes at the head of the text lie in the ranges given, one range for each byte. -/
def countWithin : List (UInt8 × UInt8) → Bytes → Nat
  | (low, high) :: ranges, b :: rest =>
    if low ≤ b ∧ b ≤ high then countWithin ranges rest + 1 else 0
  | _, _ => 0

/-- The part of the code point that the leading byte `b` carries. -/
def leadingBits (b : UInt8) : Nat :=
  if b < 0x80 then b.toNat
  else if b < 0xE0 then b.toNat - 0xC0
  else if b < 0xF0 then b.toNat - 0xE0
  else b.toNat - 0xF0

/-- The code point spelled by a leading byte and the bytes that continue it, six bits each. -/
def codePoint (b : UInt8) (following : Bytes) : Nat :=
  following.foldl (fun acc t => acc * 64 + (t.toNat - 0x80)) (leadingBits b)

/-- What stands at the head of a byte text; `none` if the text is empty. -/
def headOf : Bytes → Option Head
  | [] => none
  | b :: rest =>
    match followers b with
    | none => some (.malformed 1)
    | some ranges =>
      let n := countWithin ranges rest
      if n = ranges.length then some (.char (Char.ofNat (codePoint b (rest.take n))) (n + 1))
      else some (.malformed (n + 1))

/-- The character at the head of a byte text and its width, if the head is one. -/
def charAt? (text : Bytes) : Option (Char × Nat) :=
  match headOf text with
  | some (.char c width) => some (c, width)
  | _ => none

/-! ## Whole texts -/

/-- The character that stands for a malformed stretch. -/
def replacement : Char := '\uFFFD'

/-- Reads a byte text after its first `skip` bytes, with `replacement` for malformed stretches. -/
def lossyAfter : Nat → Bytes → List Char
  | _, [] => []
  | skip + 1, _ :: rest => lossyAfter skip rest
  | 0, b :: rest =>
    match headOf (b :: rest) with
    | some (.char c width) => c :: lossyAfter (width - 1) rest
    | some (.malformed width) => replacement :: lossyAfter (width - 1) rest
    | none => []

/-- The characters of a byte text, with U+FFFD for every malformed stretch. -/
def lossy (text : Bytes) : String :=
  String.ofList (lossyAfter 0 text)

/-- The bytes that spell a character text. -/
def utf8 (s : String) : Bytes :=
  s.toByteArray.data.toList

/-- The character text that the bytes spell, if they spell one. -/
def ofUtf8? (text : Bytes) : Option String :=
  String.fromUTF8? ⟨text.toArray⟩

theorem utf8_append (s t : String) : utf8 (s ++ t) = utf8 s ++ utf8 t := by
  simp [utf8]

/-- Spelling a text and reading it back changes nothing. -/
theorem ofUtf8?_utf8 (s : String) : ofUtf8? (utf8 s) = some s := by
  simp [ofUtf8?, utf8, String.fromUTF8?, s.isValidUTF8, String.fromUTF8]

/-- What bytes are read as is spelled by them. -/
theorem utf8_of_ofUtf8? {text : Bytes} {s : String} (h : ofUtf8? text = some s) :
    utf8 s = text := by
  unfold ofUtf8? String.fromUTF8? at h
  split at h
  · cases h
    rfl
  · cases h

/-- No two texts are spelled by the same bytes. -/
theorem utf8_injective {s t : String} (h : utf8 s = utf8 t) : s = t := by
  have := congrArg ofUtf8? h
  simpa [ofUtf8?_utf8] using this

/-- The bytes of a text are those of its characters, one after the other. -/
theorem utf8_ofList (cs : List Char) :
    utf8 (String.ofList cs) = cs.flatMap String.utf8EncodeChar := by
  simp [utf8, List.utf8Encode]

/-- Decimal digits are spelled with one byte each. -/
theorem utf8_ofList_of_digits {cs : List Char} (h : ∀ c ∈ cs, c.isDigit = true) :
    utf8 (String.ofList cs) = cs.map fun c => c.val.toUInt8 := by
  rw [utf8_ofList]
  induction cs with
  | nil => rfl
  | cons c rest ih =>
    have hlow : c.toNat ≤ 57 := (Char.isDigit_iff_toNat.1 (h c List.mem_cons_self)).2
    have hsize : c.utf8Size = 1 := by
      rw [Char.utf8Size_eq_one_iff, UInt32.le_iff_toNat_le]
      exact Nat.le_trans hlow (by decide)
    rw [List.flatMap_cons, String.utf8EncodeChar_eq_singleton hsize, List.singleton_append,
      List.map_cons, ih fun c hc => h c (List.mem_cons_of_mem _ hc)]

/-- A text whose bytes begin with those of another one begins with the other one. -/
theorem exists_eq_append_of_utf8 {s t : String} {rest : Bytes} (h : utf8 s ++ rest = utf8 t) :
    ∃ u, t = s ++ u ∧ utf8 u = rest := by
  have hbytes : s.toList.utf8Encode ++ rest.toByteArray = t.toList.utf8Encode := by
    rw [← String.toByteArray_ofList, ← String.toByteArray_ofList, String.ofList_toList,
      String.ofList_toList]
    refine ByteArray.ext (Array.toList_inj.1 ?_)
    simpa [utf8] using h
  obtain ⟨cs, hcs⟩ := List.isPrefix_of_utf8Encode_append_eq_utf8Encode _ hbytes
  have ht : t = s ++ String.ofList cs := by
    rw [← String.toList_inj, String.toList_append, String.toList_ofList]
    exact hcs.symm
  refine ⟨String.ofList cs, ht, ?_⟩
  rw [ht, utf8_append] at h
  exact (List.append_cancel_left h).symm

end Text

end ScopeSearch
