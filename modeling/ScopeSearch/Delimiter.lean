import ScopeSearch.Text.Utf8

/-!
# ScopeSearch.Delimiter — the texts that open and close scopes

There are four pairs of delimiters: parentheses, brackets, braces and the marks of a block
comment. A delimiter is one side of one pair.
-/

namespace ScopeSearch

/-- A pair of delimiters. -/
inductive Pair where
  | paren
  | bracket
  | brace
  | comment
deriving DecidableEq, Repr

/-- The two members of a pair. -/
inductive Side where
  | opener
  | closer
deriving DecidableEq, Repr

/-- The other member. -/
def Side.other : Side → Side
  | .opener => .closer
  | .closer => .opener

/-- A delimiter: one side of a pair. -/
structure Delimiter where
  pair : Pair
  side : Side
deriving DecidableEq, Repr

namespace Delimiter

/-- Every delimiter: the pairs in their order, and of each pair the opener first. -/
def all : List Delimiter :=
  [Pair.paren, .bracket, .brace, .comment].flatMap fun pair => [⟨pair, .opener⟩, ⟨pair, .closer⟩]

/-- The delimiter opens a scope. -/
def isOpener (d : Delimiter) : Bool :=
  d.side = .opener

/-- The other member of the pair. -/
def partner (d : Delimiter) : Delimiter :=
  { d with side := d.side.other }

/-- The delimiter as it stands in the input. -/
def text : Delimiter → String
  | ⟨.paren, .opener⟩ => "("
  | ⟨.paren, .closer⟩ => ")"
  | ⟨.bracket, .opener⟩ => "["
  | ⟨.bracket, .closer⟩ => "]"
  | ⟨.brace, .opener⟩ => "\x7b"
  | ⟨.brace, .closer⟩ => "\x7d"
  | ⟨.comment, .opener⟩ => "/*"
  | ⟨.comment, .closer⟩ => "*/"

/-- The bytes of the delimiter. -/
def bytes : Delimiter → Bytes
  | ⟨.paren, .opener⟩ => [0x28]
  | ⟨.paren, .closer⟩ => [0x29]
  | ⟨.bracket, .opener⟩ => [0x5B]
  | ⟨.bracket, .closer⟩ => [0x5D]
  | ⟨.brace, .opener⟩ => [0x7B]
  | ⟨.brace, .closer⟩ => [0x7D]
  | ⟨.comment, .opener⟩ => [0x2F, 0x2A]
  | ⟨.comment, .closer⟩ => [0x2A, 0x2F]

/-- The delimiter whose bytes are exactly those given. -/
def ofBytes? (text : Bytes) : Option Delimiter :=
  all.find? fun d => d.bytes = text

theorem mem_all (d : Delimiter) : d ∈ all := by
  rcases d with ⟨pair, side⟩
  cases pair <;> cases side <;> decide

/-- The bytes of a delimiter spell its text. -/
theorem utf8_text (d : Delimiter) : Text.utf8 d.text = d.bytes := by
  rcases d with ⟨pair, side⟩
  cases pair <;> cases side <;> decide

@[simp] theorem partner_partner (d : Delimiter) : d.partner.partner = d := by
  rcases d with ⟨pair, side⟩
  cases side <;> rfl

end Delimiter

end ScopeSearch
