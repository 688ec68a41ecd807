import ScopeSearch.Text.Utf8

/-!
# ScopeSearch.Text.Plain — text without control sequences

Text that has been read from anywhere may hold sequences that a terminal obeys instead of showing
them. `plain` leaves them out, and with them every control character that is no blank:

* an escape character begins a sequence of a few characters, among them the sequences for colours,
  which go from a bracket to a letter, and strings, which go on to a terminator of their own;
* blanks inside a sequence are shown all the same, except in a string. A sequence that a blank
  interrupts is taken up again at the next character that is not shown.
-/

namespace ScopeSearch.Text

/-! ## Sequences -/

/-- How far a control sequence has been read. -/
inductive Control where
  /-- No sequence has begun. -/
  | none
  /-- The escape character that begins every sequence. -/
  | escape
  /-- An escape character and what narrows down its meaning. -/
  | escapeDetail
  /-- A sequence that ends with the first letter or sign beyond the digits. -/
  | parameters
  /-- A string that a bell ends. -/
  | title
  /-- A device string that has just begun. -/
  | device
  /-- A device string, in its parameters. -/
  | deviceParameters
  /-- A device string, after its parameters. -/
  | deviceDetail
  /-- The body of a string that the string terminator ends. -/
  | body
deriving DecidableEq, Repr

/-- The byte lies in an inclusive range. -/
def isWithin (low high b : UInt8) : Bool :=
  low ≤ b && b ≤ high

/-- How far the sequence has been read after one more byte. A new escape character begins a new
sequence, and the two cancelling characters end any. -/
def Control.next (c : Control) (b : UInt8) : Control :=
  if b = 0x1B then .escape
  else if b = 0x18 || b = 0x1A then .none
  else
    match c with
    | .none => .none
    | .escape =>
      if isWithin 0x20 0x2F b then .escapeDetail
      else if b = 0x5B then .parameters
      else if b = 0x5D then .title
      else if b = 0x50 then .device
      else if b = 0x58 || b = 0x5E || b = 0x5F then .body
      else if isWithin 0x30 0x7E b then .none
      else .escape
    | .escapeDetail => if isWithin 0x30 0x7E b then .none else .escapeDetail
    | .parameters => if isWithin 0x40 0x7E b then .none else .parameters
    | .title => if b = 0x07 then .none else .title
    | .device =>
      if isWithin 0x20 0x2F b then .deviceDetail
      else if isWithin 0x30 0x3F b then .deviceParameters
      else if isWithin 0x40 0x7E b then .body
      else .device
    | .deviceParameters =>
      if isWithin 0x20 0x2F b then .deviceDetail
      else if isWithin 0x3C 0x7E b then .body
      else .deviceParameters
    | .deviceDetail => if isWithin 0x30 0x7E b then .body else .deviceDetail
    | .body => if b = 0x9C then .none else .body

/-- Blanks that break no string are shown within the sequence. -/
def Control.showsBlanks : Control → Bool
  | .none | .escape | .escapeDetail | .parameters => true
  | .title | .device | .deviceParameters | .deviceDetail | .body => false

/-! ## What is shown -/

/-- A control character that is shown: tab, line break, form feed and carriage return. -/
def isShownControl (b : UInt8) : Bool :=
  b = 0x09 || b = 0x0A || b = 0x0C || b = 0x0D

/-- An ASCII character that is shown. -/
def isShownAscii (b : UInt8) : Bool :=
  isWithin 0x20 0x7E b || isShownControl b

/-- What is done with the bytes of a text as they come. -/
inductive Showing where
  /-- They are shown; a sequence may have been interrupted before them. -/
  | shown (interrupted : Control)
  /-- So many of them belong to the character that has been begun. -/
  | inChar (left : Nat)
  /-- They are left out. -/
  | hidden (c : Control)
deriving DecidableEq, Repr

/-- How many bytes continue the character that the byte leads, if it leads one of several bytes. -/
def continuing? (b : UInt8) : Option Nat :=
  if b < 0x80 then none else (followers b).map List.length

/-- Takes one more byte outside every sequence; one may have been interrupted before it. Gives what
is to be done with the next byte, and whether this one is shown. -/
def nextOutside (interrupted : Control) (b : UInt8) : Showing × Bool :=
  match continuing? b with
  | some left => (.inChar left, true)
  | none =>
    if isShownAscii b then (.shown interrupted, true) else (.hidden (interrupted.next b), false)

/-- Takes one more byte: what is to be done with the next, and whether this one is shown. -/
def Showing.next (s : Showing) (b : UInt8) : Showing × Bool :=
  match s with
  | .inChar left => (if left ≤ 1 then .shown .none else .inChar (left - 1), true)
  | .shown interrupted => nextOutside interrupted b
  | .hidden .none => nextOutside .none b
  | .hidden c =>
    if isShownControl b && c.showsBlanks then (.shown c, true) else (.hidden (c.next b), false)

/-- What is shown of a text, from a point of it on. -/
def plainFrom (s : Showing) : Bytes → Bytes
  | [] => []
  | b :: rest =>
    let (s, isShown) := s.next b
    if isShown then b :: plainFrom s rest else plainFrom s rest

/-- The text without control sequences. -/
def plain (text : Bytes) : Bytes :=
  plainFrom (.shown .none) text

end ScopeSearch.Text
