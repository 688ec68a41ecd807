/-!
# ScopeSearch.Text.Spelling — the bytes that spell ranges of code points

A code point is spelled by one byte to four. The spellings of all code points in a range are a few
sequences of byte ranges, so that each choice of one byte from every range of a sequence spells a
code point of the range; `spellings` lists them by increasing code points. Two sequences begin
with the same ranges, or else with ranges that have no byte in common.
-/

namespace ScopeSearch.Text

/-- An inclusive range of bytes. -/
abbrev ByteRange := Nat × Nat

/-- The byte ranges, one after the other, that spell some code points. -/
abbrev Spelling := List ByteRange

/-- How many code points differ in their last `n` bytes alone: each of them carries six bits. -/
def blockSize : Nat → Nat
  | 0 => 1
  | n + 1 => 64 * blockSize n

/-- The spellings of the values from `low` to `high` as a byte, counted from `base`, that carries
the highest bits, and as many bytes after it as `following` says. -/
def spellingsFrom (base : Nat) : (following : Nat) → (low high : Nat) → List Spelling
  | 0, low, high => [[(base + low, base + high)]]
  | following + 1, low, high =>
    let block := blockSize (following + 1)
    let tails := spellingsFrom 0x80 following
    let inside (byte low high : Nat) : List Spelling :=
      (tails low high).map ((base + byte, base + byte) :: ·)
    let first := low / block
    let last := high / block
    if first = last then inside first (low % block) (high % block)
    else
      let partFirst := low % block != 0
      let partLast := high % block != block - 1
      let wholeFrom := if partFirst then first + 1 else first
      let wholeTo := if partLast then last else last + 1
      (if partFirst then inside first (low % block) (block - 1) else []) ++
        (if wholeFrom < wholeTo then
          (tails 0 (block - 1)).map ((base + wholeFrom, base + wholeTo - 1) :: ·)
        else []) ++
        (if partLast then inside last 0 (high % block) else [])

/-- The code points that are spelled by the same number of bytes: the first and the last of them,
what is added to the highest bits in the leading byte, and how many bytes follow it. Surrogates are
not spelled. -/
def spellingForms : List (Nat × Nat × Nat × Nat) :=
  [(0x0, 0x7F, 0x00, 0), (0x80, 0x7FF, 0xC0, 1), (0x800, 0xD7FF, 0xE0, 2),
   (0xE000, 0xFFFF, 0xE0, 2), (0x10000, 0x10FFFF, 0xF0, 3)]

/-- The spellings of the code points in some ranges, which stand in increasing order. -/
def spellings (ranges : List (Nat × Nat)) : List Spelling :=
  ranges.flatMap fun (low, high) =>
    spellingForms.flatMap fun (first, last, base, following) =>
      let low := Nat.max low first
      let high := Nat.min high last
      if low ≤ high then spellingsFrom base following low high else []

end ScopeSearch.Text
