import ScopeSearch.Pattern.Token
import ScopeSearch.Text.Utf8

/-!
# ScopeSearch.Pattern.Reading — from tokens to a pattern

Groups nest, bars part the alternatives of the group they stand in, and a repetition takes what
stands directly before it. Flags hold from where they are set to the end of the group around them;
they say whether case counts, whether line breaks end lines, what the dot takes, which way
repetitions lean, and whether characters or bytes are matched.
-/

namespace ScopeSearch.Pattern

/-! ## Flags -/

/-- The flags in force. -/
structure Flags where
  caseless : Bool := false
  /-- A caret and a dollar sign match at line breaks too. -/
  multiLine : Bool := false
  /-- The dot matches a line break too. -/
  dotAll : Bool := false
  /-- Repetitions prefer fewer rounds, unless a question mark follows. -/
  swapGreed : Bool := false
  /-- Characters are matched, and not bytes. -/
  wide : Bool := true
  /-- Nothing but text may be matched, even where bytes are. No part of a pattern changes this. -/
  textOnly : Bool := false
deriving DecidableEq, Repr

namespace Flags

/-- The flags with one of them set. -/
def set (f : Flags) (change : Flag × Bool) : Flags :=
  match change with
  | (.caseless, on) => { f with caseless := on }
  | (.multiLine, on) => { f with multiLine := on }
  | (.dotAll, on) => { f with dotAll := on }
  | (.swapGreed, on) => { f with swapGreed := on }
  | (.wide, on) => { f with wide := on }

/-- The flags after a change. -/
def change (f : Flags) (changes : FlagChange) : Flags :=
  changes.foldl set f

/-- The set with case variants, if case does not count. -/
def foldSet (f : Flags) (s : CharSet) : CharSet :=
  if !f.caseless then s
  else if f.wide then s.foldCase
  else s.foldAsciiCase

/-- The complement of the set, if it is asked for. -/
def negateIf (f : Flags) (negated : Bool) (s : CharSet) : CharSet :=
  if negated then s.compl (if f.wide then CharSet.lastChar else CharSet.lastByte) else s

/-- The set, unless it has bytes that spell no text, where only text may be matched. -/
def permitted (f : Flags) (s : CharSet) : Except Fault CharSet :=
  if f.textOnly && !f.wide && !s.isAscii then .error .brokenText else .ok s

/-- Matches one character of the set, or one byte. -/
def one (f : Flags) (s : CharSet) : Pattern :=
  if f.wide then ofChars s else ofBytes s

end Flags

/-! ## Single tokens -/

/-- The set that a shorthand stands for. -/
def Shorthand.set (kind : Shorthand) (wide : Bool) : CharSet :=
  match kind, wide with
  | .digit, true => .digit
  | .space, true => .space
  | .word, true => .word
  | .digit, false => ⟨Text.asciiDigitRanges⟩
  | .space, false => ⟨Text.asciiSpaceRanges⟩
  | .word, false => ⟨Text.asciiWordRanges⟩

/-- The code point that a literal stands for in a class. A class of bytes has no characters beyond
ASCII, except as bytes. -/
def Literal.member (f : Flags) (l : Literal) : Except Fault Nat :=
  if f.wide || l.asByte || l.char.toNat < 0x80 then .ok l.char.toNat
  else .error .wideByteClass

/-- The set that a class stands for. Case variants are added within every pair of brackets and in
every named class, before it is negated, and on both sides of every operator. -/
def ClassExpr.toSet (f : Flags) : ClassExpr → Except Fault CharSet
  | .none => .ok (.ofRanges [])
  | .range low high => do f.permitted (.ofRanges [(← low.member f, ← high.member f)])
  | .shorthand kind negated => f.permitted (f.negateIf negated (kind.set f.wide))
  | .ascii ranges negated => f.permitted (f.negateIf negated (f.foldSet ⟨ranges⟩))
  | .brackets negated body => do f.permitted (f.negateIf negated (f.foldSet (← body.toSet f)))
  | .union members item => do return .union (← members.toSet f) (← item.toSet f)
  | .combined op a b => do
    let a := f.foldSet (← a.toSet f)
    let b := f.foldSet (← b.toSet f)
    match op with
    | .inter => return a.inter b
    | .diff => return a.diff b
    | .symmDiff => return a.symmDiff b

/-- What a literal matches. Where bytes are matched, a character beyond ASCII is the bytes that
spell it. -/
def Literal.pattern (f : Flags) (l : Literal) : Except Fault Pattern := do
  if f.wide || l.asByte || l.char.toNat < 0x80 then
    return f.one (f.foldSet (← f.permitted (.single l.char.toNat)))
  else return .literal (Text.utf8 l.char.toString)

/-- What the dot matches. Where only text may be matched, no dot stands for a byte. -/
def dot (f : Flags) : Except Fault Pattern := do
  let lineBreak : CharSet := if f.dotAll then .ofRanges [] else .single 0x0A
  return f.one (← f.permitted (f.negateIf true lineBreak))

/-- What a test tests. -/
def Anchor.look (f : Flags) : Anchor → Look
  | .caret => if f.multiLine then .lineStart else .textStart
  | .dollar => if f.multiLine then .lineEnd else .textEnd
  | .textStart => .textStart
  | .textEnd => .textEnd
  | .word edge => .word edge f.wide

/-! ## Groups -/

/-- A part of an alternative. -/
structure Part where
  /-- What the part matches; `none` stands for flags, which cannot be repeated. -/
  pattern : Option Pattern
  /-- How deeply groups, repetitions, bracketed classes, sequences and choices stand in each other
  in it. -/
  depth : Nat := 0

/-- How deeply things stand in each other in a list of several; a list of one adds nothing. -/
def depthOfList : List Nat → Nat
  | [] => 0
  | [depth] => depth
  | depths => depths.foldl Nat.max 0 + 1

/-- A group that is being read. -/
structure Group where
  /-- The number that the group has, if it has one. -/
  number : Option Nat := none
  /-- The flags that hold again after the group. -/
  outerFlags : Flags
  /-- The finished alternatives, the latest first. -/
  finished : List Part := []
  /-- The parts of the alternative that is being read, the latest first. -/
  parts : List Part := []

namespace Group

/-- The alternative that is being read, as far as it goes. -/
def branch (g : Group) : Part where
  pattern := some (sequence (g.parts.reverse.filterMap Part.pattern))
  depth := depthOfList (g.parts.map Part.depth)

/-- The next alternative begins. -/
def nextBranch (g : Group) : Group :=
  { g with finished := g.branch :: g.finished, parts := [] }

/-- One more part. -/
def add (g : Group) (part : Part) : Group :=
  { g with parts := part :: g.parts }

/-- What stands in the group, as one part: the choice between its alternatives, the first first. -/
def content (g : Group) : Part :=
  let alternatives := g.branch :: g.finished
  { pattern := some (choice (alternatives.reverse.filterMap Part.pattern))
    depth := depthOfList (alternatives.map Part.depth) }

/-- The group as a part of the one around it. -/
def asPart (g : Group) : Part :=
  let content := g.content
  { pattern := content.pattern.map fun p => (g.number.map fun n => .group n p).getD p
    depth := content.depth + 1 }

end Group

/-- What is being read: the innermost group with the flags in force in it, the groups around it, and
the numbers and names given so far. -/
structure Draft where
  group : Group
  flags : Flags
  outer : List Group := []
  numbered : Nat := 0
  names : List (List Char) := []

namespace Draft

/-- Nothing has been read, and these flags are in force. -/
def start (flags : Flags) : Draft :=
  { group := { outerFlags := flags }, flags }

/-- One more part in the innermost group. -/
def add (d : Draft) (part : Part) : Draft :=
  { d with group := d.group.add part }

/-- A group begins. No two groups have one name. -/
def openGroup (d : Draft) (kind : GroupKind) : Except Fault Draft :=
  let outer := d.group :: d.outer
  match kind with
  | .plain flags => .ok
    { d with group := { outerFlags := d.flags }, flags := d.flags.change flags, outer }
  | .numbered name =>
    if name.any d.names.contains then .error .badGroupName
    else .ok
      { d with
        group := { number := some (d.numbered + 1), outerFlags := d.flags }
        outer
        numbered := d.numbered + 1
        names := name.toList ++ d.names }

/-- The innermost group ends and is a part of the one around it. -/
def closeGroup (d : Draft) : Except Fault Draft :=
  match d.outer with
  | [] => .error .unopenedGroup
  | around :: outer => .ok
    { d with
      group := around.add d.group.asPart
      flags := d.group.outerFlags
      outer }

/-- The part read last is repeated. -/
def repeatLast (d : Draft) (min : Nat) (max : Option Nat) (greedy : Bool) : Except Fault Draft :=
  match d.group.parts with
  | ⟨some p, depth⟩ :: parts =>
    let repeated := repeatPattern p min max (greedy != d.flags.swapGreed)
    .ok { d with group := { d.group with parts := ⟨some repeated, depth + 1⟩ :: parts } }
  | _ => .error .nothingToRepeat

/-- Reads one token. -/
def read (d : Draft) : Token → Except Fault Draft
  | .literal l => do return d.add ⟨some (← l.pattern d.flags), 0⟩
  | .dot => do return d.add ⟨some (← dot d.flags), 0⟩
  | .shorthand kind negated => do
    let set ← ClassExpr.toSet d.flags (.shorthand kind negated)
    return d.add ⟨some (d.flags.one set), 0⟩
  | .cls c => do return d.add ⟨some (d.flags.one (← c.toSet d.flags)), c.depth⟩
  | .anchor a => .ok (d.add ⟨some (.look (a.look d.flags)), 0⟩)
  | .openGroup kind => d.openGroup kind
  | .closeGroup => d.closeGroup
  | .setFlags flags => .ok ({ d with flags := d.flags.change flags }.add ⟨none, 0⟩)
  | .bar => .ok { d with group := d.group.nextBranch }
  | .repetition min max greedy => d.repeatLast min max greedy

/-- How deeply the things in a pattern may stand in each other. -/
def depthLimit : Nat := 250

/-- The pattern, once every group has ended. -/
def toPattern (d : Draft) : Except Fault Pattern :=
  let content := d.group.content
  if !d.outer.isEmpty then .error .unclosedGroup
  else if content.depth > depthLimit then .error .tooDeep
  else .ok (content.pattern.getD .empty)

end Draft

/-- The pattern that a text writes; one that matches nothing but text, if `textOnly`. -/
def ofText (text : String) (textOnly : Bool) : Except Fault Pattern := do
  (← (← tokens text).foldlM Draft.read (.start { textOnly })).toPattern

end ScopeSearch.Pattern
