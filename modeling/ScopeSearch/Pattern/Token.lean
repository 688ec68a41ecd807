import ScopeSearch.Pattern.Basic

/-!
# ScopeSearch.Pattern.Token — the parts of a written pattern

A written pattern is a sequence of tokens: literals, escapes, whole bracketed classes, group marks,
bars and repetitions. Reading the tokens settles what is well formed inside each of them; what the
flags in force make of a token is settled when the pattern is built.
-/

namespace ScopeSearch.Pattern

/-! ## Tokens -/

/-- A literal character. One written as `\x` and two digits is a byte where bytes are matched. -/
structure Literal where
  char : Char
  asByte : Bool := false
deriving DecidableEq, Repr

/-- The classes that have an escape of their own. -/
inductive Shorthand where
  | digit
  | space
  | word
deriving DecidableEq, Repr

/-- How two classes within brackets are combined. -/
inductive ClassOp where
  | inter
  | diff
  | symmDiff
deriving DecidableEq, Repr

/-- A class as it is written between brackets. -/
inductive ClassExpr where
  /-- No member. -/
  | none
  | range (low high : Literal)
  | shorthand (kind : Shorthand) (negated : Bool)
  /-- A named class of ASCII characters. -/
  | ascii (ranges : List (Nat × Nat)) (negated : Bool)
  /-- Brackets within the brackets, or the outermost ones. -/
  | brackets (negated : Bool) (body : ClassExpr)
  /-- Some members and one more. -/
  | union (members item : ClassExpr)
  | combined (op : ClassOp) (a b : ClassExpr)
deriving DecidableEq, Repr

/-- How deeply brackets, operators and lists of several members stand in each other in a class. -/
def ClassExpr.depth : ClassExpr → Nat
  | .none | .range .. | .shorthand .. | .ascii .. => 0
  | .brackets _ body => body.depth + 1
  | .combined _ a b => Nat.max a.depth b.depth + 1
  | .union .none item => item.depth
  | .union (.union .none first) item => Nat.max first.depth item.depth + 1
  | .union members item => Nat.max members.depth (item.depth + 1)

/-- A test as it is written. -/
inductive Anchor where
  | caret
  | dollar
  | textStart
  | textEnd
  | word (edge : WordEdge)
deriving DecidableEq, Repr

/-- What can be switched on and off within a pattern. -/
inductive Flag where
  | caseless
  | multiLine
  | dotAll
  | swapGreed
  | wide
deriving DecidableEq, Repr

/-- Flags with the value that each is given. -/
abbrev FlagChange := List (Flag × Bool)

/-- What a group is for. -/
inductive GroupKind where
  /-- The group is numbered, and may be given a name. -/
  | numbered (name : Option (List Char))
  /-- The group holds its parts together, and these flags hold within it. -/
  | plain (flags : FlagChange)
deriving DecidableEq, Repr

/-- A part of a written pattern. -/
inductive Token where
  | literal (l : Literal)
  | dot
  | shorthand (kind : Shorthand) (negated : Bool)
  | cls (c : ClassExpr)
  | anchor (a : Anchor)
  /-- The start of a group. -/
  | openGroup (kind : GroupKind)
  | closeGroup
  /-- Flags that hold up to the end of the group around them. -/
  | setFlags (flags : FlagChange)
  | bar
  | repetition (min : Nat) (max : Option Nat) (greedy : Bool)
deriving DecidableEq, Repr

/-! ## Escapes -/

/-- What an escape stands for. -/
inductive Escape where
  | literal (l : Literal)
  | shorthand (kind : Shorthand) (negated : Bool)
  | anchor (a : Anchor)
deriving DecidableEq, Repr

/-- The value of a hexadecimal digit. -/
def hexValue? (c : Char) : Option Nat :=
  if '0' ≤ c ∧ c ≤ '9' then some (c.toNat - 0x30)
  else if 'a' ≤ c ∧ c ≤ 'f' then some (c.toNat - 0x61 + 10)
  else if 'A' ≤ c ∧ c ≤ 'F' then some (c.toNat - 0x41 + 10)
  else none

/-- The character whose code point some hexadecimal digits spell. -/
def charOfHex? (digits : List Char) : Option Char := do
  let values ← digits.mapM hexValue?
  let n := values.foldl (fun acc d => acc * 16 + d) 0
  if digits.isEmpty then none
  else if h : n.isValidChar then some (Char.ofNatAux n h)
  else none

/-- Reads the digits of a hexadecimal escape: as many as `width` says, or any number in braces. -/
def readHex (width : Nat) : List Char → Except Fault (Escape × List Char)
  | '\x7b' :: rest =>
    match rest.dropWhile (· != '\x7d'), charOfHex? (rest.takeWhile (· != '\x7d')) with
    | _ :: after, some c => .ok (.literal ⟨c, false⟩, after)
    | _, _ => .error .badEscape
  | text =>
    let digits := text.take width
    match charOfHex? digits with
    | some c =>
      if digits.length = width then .ok (.literal ⟨c, width = 2⟩, text.drop width)
      else .error .badEscape
    | none => .error .badEscape

/-- The tests of word edges that have a name. -/
def namedEdge? (name : List Char) : Option WordEdge :=
  if name = "start".toList then some .start
  else if name = "end".toList then some .stop
  else if name = "start-half".toList then some .startHalf
  else if name = "end-half".toList then some .stopHalf
  else none

/-- Reads what follows the escape for a word boundary: a named edge in braces, if a name stands in
them. Any other braces are left to be read as a repetition. -/
def readBoundary : List Char → Except Fault (Escape × List Char)
  | '\x7b' :: rest =>
    let name := rest.takeWhile fun c => c.isAlpha || c = '-'
    if rest.isEmpty then .error .badEscape
    else if name.isEmpty then .ok (.anchor (.word .boundary), '\x7b' :: rest)
    else
      match namedEdge? name, rest.drop name.length with
      | some edge, '\x7d' :: after => .ok (.anchor (.word edge), after)
      | _, _ => .error .badEscape
  | text => .ok (.anchor (.word .boundary), text)

/-- Reads an escape, of which the backslash has been read. Every ASCII character that is no letter,
digit or angle bracket may be escaped to stand for itself. -/
def readEscape : List Char → Except Fault (Escape × List Char)
  | [] => .error .badEscape
  | c :: rest =>
    match c with
    | 'x' => readHex 2 rest
    | 'u' => readHex 4 rest
    | 'U' => readHex 8 rest
    | 'd' => .ok (.shorthand .digit false, rest)
    | 'D' => .ok (.shorthand .digit true, rest)
    | 's' => .ok (.shorthand .space false, rest)
    | 'S' => .ok (.shorthand .space true, rest)
    | 'w' => .ok (.shorthand .word false, rest)
    | 'W' => .ok (.shorthand .word true, rest)
    | 'a' => .ok (.literal ⟨'\x07', false⟩, rest)
    | 'f' => .ok (.literal ⟨'\x0c', false⟩, rest)
    | 't' => .ok (.literal ⟨'\t', false⟩, rest)
    | 'n' => .ok (.literal ⟨'\n', false⟩, rest)
    | 'r' => .ok (.literal ⟨'\r', false⟩, rest)
    | 'v' => .ok (.literal ⟨'\x0b', false⟩, rest)
    | 'A' => .ok (.anchor .textStart, rest)
    | 'z' => .ok (.anchor .textEnd, rest)
    | 'b' => readBoundary rest
    | 'B' => .ok (.anchor (.word .inside), rest)
    | '<' => .ok (.anchor (.word .start), rest)
    | '>' => .ok (.anchor (.word .stop), rest)
    | _ =>
      if c.isDigit then .error .backReference
      else if c.isAlpha || c.toNat ≥ 0x80 then .error .badEscape
      else .ok (.literal ⟨c, false⟩, rest)

/-! ## Bracketed classes -/

/-- The named classes of ASCII characters. -/
def asciiClass? (name : List Char) : Option (List (Nat × Nat)) :=
  let known : List (String × List (Nat × Nat)) :=
    [("alnum", [(0x30, 0x39), (0x41, 0x5A), (0x61, 0x7A)]),
     ("alpha", [(0x41, 0x5A), (0x61, 0x7A)]),
     ("ascii", [(0x00, 0x7F)]),
     ("blank", [(0x09, 0x09), (0x20, 0x20)]),
     ("cntrl", [(0x00, 0x1F), (0x7F, 0x7F)]),
     ("digit", [(0x30, 0x39)]),
     ("graph", [(0x21, 0x7E)]),
     ("lower", [(0x61, 0x7A)]),
     ("print", [(0x20, 0x7E)]),
     ("punct", [(0x21, 0x2F), (0x3A, 0x40), (0x5B, 0x60), (0x7B, 0x7E)]),
     ("space", [(0x09, 0x0D), (0x20, 0x20)]),
     ("upper", [(0x41, 0x5A)]),
     ("word", [(0x30, 0x39), (0x41, 0x5A), (0x5F, 0x5F), (0x61, 0x7A)]),
     ("xdigit", [(0x30, 0x39), (0x41, 0x46), (0x61, 0x66)])]
  (known.find? fun (n, _) => n.toList = name).map Prod.snd

/-- Reads a named class, of which the first bracket has been read: a colon, a caret if it is
negated, a known name, a colon and a bracket. -/
def readAsciiClass? : List Char → Option (ClassExpr × List Char)
  | ':' :: rest =>
    let (negated, rest) :=
      match rest with
      | '^' :: rest => (true, rest)
      | _ => (false, rest)
    match asciiClass? (rest.takeWhile (· != ':')), rest.dropWhile (· != ':') with
    | some ranges, ':' :: ']' :: after => some (.ascii ranges negated, after)
    | _, _ => none
  | _ => none

/-- Reads one member of a class. -/
def readClassItem : List Char → Except Fault (Escape × List Char)
  | [] => .error .unclosedClass
  | '\\' :: rest => readEscape rest
  | c :: rest => .ok (.literal ⟨c, false⟩, rest)

/-- The class of one member. A test of a place is no member. -/
def classOfItem : Escape → Except Fault ClassExpr
  | .literal l => .ok (.range l l)
  | .shorthand kind negated => .ok (.shorthand kind negated)
  | .anchor _ => .error .badClassItem

/-- Reads one member of a class or a range of them. A dash before the closing bracket, or before
another dash, makes no range. -/
def readClassRange (text : List Char) : Except Fault (ClassExpr × List Char) := do
  let (first, rest) ← readClassItem text
  let one : Except Fault (ClassExpr × List Char) := (classOfItem first).map (·, rest)
  match rest with
  | [] => .error .unclosedClass
  | '-' :: ']' :: _ => one
  | '-' :: '-' :: _ => one
  | '-' :: afterDash =>
    let (second, after) ← readClassItem afterDash
    match first, second with
    | .literal low, .literal high =>
      if low.char ≤ high.char then .ok (.range low high, after) else .error .badClassRange
    | _, _ => .error .badClassItem
  | _ => one

/-- Reads what may open a class, of which the bracket has been read: a caret if it is negated, and
then dashes, or else one closing bracket, that stand for themselves. -/
def readClassOpening (text : List Char) : Bool × ClassExpr × List Char :=
  let (negated, text) :=
    match text with
    | '^' :: rest => (true, rest)
    | _ => (false, text)
  let dashes := text.takeWhile (· = '-')
  let rest := text.drop dashes.length
  let itself (c : Char) : ClassExpr := .range ⟨c, false⟩ ⟨c, false⟩
  match dashes, rest with
  | [], ']' :: rest => (negated, .union .none (itself ']'), rest)
  | dashes, rest => (negated, dashes.foldl (fun body c => .union body (itself c)) .none, rest)

/-- What has been read within brackets: the left side of an operator that waits for its right side,
if there is one, and the members since. -/
structure ClassBody where
  waiting : Option (ClassOp × ClassExpr)
  items : ClassExpr

namespace ClassBody

/-- The class read so far. -/
def toExpr (b : ClassBody) : ClassExpr :=
  match b.waiting with
  | none => b.items
  | some (op, left) => .combined op left b.items

/-- An operator follows: everything before it is its left side. -/
def operator (b : ClassBody) (op : ClassOp) : ClassBody :=
  ⟨some (op, b.toExpr), .none⟩

/-- One more member. -/
def add (b : ClassBody) (item : ClassExpr) : ClassBody :=
  { b with items := .union b.items item }

end ClassBody

/-- Reads the rest of a class and the bracket that closes it. Every round reads a character at
least, so that `fuel` rounds are enough for a text of that length. -/
def readClassBody : Nat → ClassBody → List Char → Except Fault (ClassExpr × List Char)
  | 0, _, _ => .error .unclosedClass
  | fuel + 1, body, text =>
    match text with
    | [] => .error .unclosedClass
    | ']' :: rest => .ok (body.toExpr, rest)
    | '&' :: '&' :: rest => readClassBody fuel (body.operator .inter) rest
    | '-' :: '-' :: rest => readClassBody fuel (body.operator .diff) rest
    | '~' :: '~' :: rest => readClassBody fuel (body.operator .symmDiff) rest
    | '[' :: rest =>
      match readAsciiClass? rest with
      | some (item, rest) => readClassBody fuel (body.add item) rest
      | none => do
        let (negated, items, rest) := readClassOpening rest
        let (inner, rest) ← readClassBody fuel ⟨none, items⟩ rest
        readClassBody fuel (body.add (.brackets negated inner)) rest
    | text => do
      let (item, rest) ← readClassRange text
      readClassBody fuel (body.add item) rest

/-- Reads a class, of which the first bracket has been read. -/
def readClass (text : List Char) : Except Fault (Token × List Char) := do
  let (negated, items, rest) := readClassOpening text
  let (body, rest) ← readClassBody (text.length + 1) ⟨none, items⟩ rest
  return (.cls (.brackets negated body), rest)

/-! ## Repetitions -/

/-- A question mark after a repetition makes it prefer fewer rounds. -/
def readGreed (min : Nat) (max : Option Nat) : List Char → Token × List Char
  | '?' :: rest => (.repetition min max false, rest)
  | text => (.repetition min max true, text)

/-- The least number that is too large for a count: the 32nd power of two. -/
def countLimit : Nat := 4294967296

/-- Reads a count: decimal digits, with blanks around them, for a number below the limit. -/
def readCount (text : List Char) : Except Fault (Nat × List Char) :=
  let isBlank (c : Char) : Bool := Text.isSpace c.toNat
  let text := text.dropWhile isBlank
  let digits := text.takeWhile Char.isDigit
  let n := digits.foldl (fun acc d => acc * 10 + (d.toNat - 0x30)) 0
  if digits.isEmpty || n ≥ countLimit then .error .badCount
  else .ok (n, (text.drop digits.length).dropWhile isBlank)

/-- Reads a counted repetition, of which the first brace has been read. -/
def readCounted (text : List Char) : Except Fault (Token × List Char) := do
  let (min, rest) ← readCount text
  let (max, rest) ←
    match rest with
    | ',' :: '\x7d' :: rest => pure (none, '\x7d' :: rest)
    | ',' :: rest => do
      let (max, rest) ← readCount rest
      pure (some max, rest)
    | rest => pure (some min, rest)
  match rest with
  | '\x7d' :: rest =>
    if max.any (· < min) then .error .badCount else .ok (readGreed min max rest)
  | _ => .error .badCount

/-! ## Groups -/

/-- The flag that a letter stands for. -/
def flagOf? : Char → Option Flag
  | 'i' => some .caseless
  | 'm' => some .multiLine
  | 's' => some .dotAll
  | 'U' => some .swapGreed
  | 'u' => some .wide
  | _ => none

/-- Reads flags up to the character that ends them, `:` or `)`, which is left. A dash, of which
there is one at most and not at the end, makes the flags after it be switched off; no flag is named
twice. -/
def readFlags (on : Bool) (seen : FlagChange) : List Char → Except Fault (FlagChange × List Char)
  | [] => .error .badFlags
  | c :: rest =>
    if c = ':' ∨ c = ')' then .ok (seen, c :: rest)
    else if c = '-' then
      match rest with
      | ':' :: _ | ')' :: _ => .error .badFlags
      | _ => if on then readFlags false seen rest else .error .badFlags
    else
      match flagOf? c with
      | some flag =>
        if seen.any fun (f, _) => f = flag then .error .badFlags
        else readFlags on (seen ++ [(flag, on)]) rest
      | none => .error .badFlags

/-- The character may stand in the name of a group, at its start if `first`. -/
def isNameChar (first : Bool) (c : Char) : Bool :=
  c = '_' || Text.isLetter c.toNat ||
    (!first && (Text.isAlphanumeric c.toNat || c = '.' || c = '[' || c = ']'))

/-- Reads the name of a group and the angle bracket after it. -/
def readGroupName (text : List Char) : Except Fault (Token × List Char) :=
  match text.takeWhile (· != '>'), text.dropWhile (· != '>') with
  | c :: name, _ :: rest =>
    if isNameChar true c && name.all (isNameChar false) then
      .ok (.openGroup (.numbered (some (c :: name))), rest)
    else .error .badGroupName
  | _, _ => .error .badGroupName

/-- Reads the start of a group, of which the parenthesis has been read. -/
def readGroup : List Char → Except Fault (Token × List Char)
  | '?' :: '=' :: _ | '?' :: '!' :: _ | '?' :: '<' :: '=' :: _ | '?' :: '<' :: '!' :: _ =>
    .error .lookAround
  | '?' :: 'P' :: '<' :: rest => readGroupName rest
  | '?' :: '<' :: rest => readGroupName rest
  | '?' :: rest => do
    let (flags, rest) ← readFlags true [] rest
    match rest with
    | ':' :: rest => .ok (.openGroup (.plain flags), rest)
    | _ :: rest => if flags.isEmpty then .error .badFlags else .ok (.setFlags flags, rest)
    | [] => .error .badFlags
  | text => .ok (.openGroup (.numbered none), text)

/-! ## Whole texts -/

/-- Reads the token that begins with `c`. -/
def readToken (c : Char) (rest : List Char) : Except Fault (Token × List Char) :=
  match c with
  | '(' => readGroup rest
  | ')' => .ok (.closeGroup, rest)
  | '|' => .ok (.bar, rest)
  | '[' => readClass rest
  | '?' => .ok (readGreed 0 (some 1) rest)
  | '*' => .ok (readGreed 0 none rest)
  | '+' => .ok (readGreed 1 none rest)
  | '\x7b' => readCounted rest
  | '.' => .ok (.dot, rest)
  | '^' => .ok (.anchor .caret, rest)
  | '$' => .ok (.anchor .dollar, rest)
  | '\\' => do
    let (escape, rest) ← readEscape rest
    match escape with
    | .literal l => return (.literal l, rest)
    | .shorthand kind negated => return (.shorthand kind negated, rest)
    | .anchor a => return (.anchor a, rest)
  | c => .ok (.literal ⟨c, false⟩, rest)

/-- Reads tokens up to the end of the text. Every token has a character at least, so that `fuel`
rounds are enough for a text of that length. -/
def readTokens : Nat → List Char → Except Fault (List Token)
  | _, [] => .ok []
  | 0, _ :: _ => .ok []
  | fuel + 1, c :: rest => do
    let (token, rest) ← readToken c rest
    return token :: (← readTokens fuel rest)

/-- The tokens of a written pattern. -/
def tokens (text : String) : Except Fault (List Token) :=
  readTokens text.length text.toList

end ScopeSearch.Pattern
