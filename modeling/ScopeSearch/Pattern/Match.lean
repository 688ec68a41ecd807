import ScopeSearch.Pattern.Program
import ScopeSearch.Matcher

/-!
# ScopeSearch.Pattern.Match — finding the first match

A program is run over a text with all its ways at once. At every place there is a list of threads,
the preferred first; a thread is an instruction that has been reached, with the column where its
match began. Two threads at one instruction have the same future, so only the preferred one is kept.
As long as nothing has matched, a new thread starts at every place, behind all others; a thread that
completes a match ends all threads behind it. So the first match by column is found, and of the
matches there the preferred one.
-/

namespace ScopeSearch

/-! ## Places -/

/-- A place in a text: the bytes before it, the nearest first, and the bytes after it. -/
structure Place where
  before : Bytes
  after : Bytes

namespace Place

/-- The character that ends at the place, if the bytes before it spell one: they are read from the
nearest byte that is no continuation, at most four bytes back. -/
def charBefore? (p : Place) : Option Char :=
  let back := ((p.before.take 3).takeWhile fun b => 0x80 ≤ b && b < 0xC0).length
  (Text.charAt? (p.before.take (back + 1)).reverse).map Prod.fst

/-- The character that starts at the place, if the bytes after it spell one. -/
def charAfter? (p : Place) : Option Char :=
  (Text.charAt? p.after).map Prod.fst

/-- A word character ends at the place. -/
def wordBefore (p : Place) (wide : Bool) : Bool :=
  if wide then p.charBefore?.any fun c => Text.isWord c.toNat
  else p.before.head?.any fun b => Text.inRanges Text.asciiWordRanges b.toNat

/-- A word character starts at the place. -/
def wordAfter (p : Place) (wide : Bool) : Bool :=
  if wide then p.charAfter?.any fun c => Text.isWord c.toNat
  else p.after.head?.any fun b => Text.inRanges Text.asciiWordRanges b.toNat

/-- Bytes before the place spell no character, where characters are asked for. -/
def brokenBefore (p : Place) (wide : Bool) : Bool :=
  wide && !p.before.isEmpty && p.charBefore?.isNone

/-- Bytes after the place spell no character, where characters are asked for. -/
def brokenAfter (p : Place) (wide : Bool) : Bool :=
  wide && !p.after.isEmpty && p.charAfter?.isNone

/-- The place passes a test of the characters around it. A test that asks for the absence of word
characters alone fails beside bytes that spell no character. -/
def passesEdge (p : Place) (wide : Bool) : WordEdge → Bool
  | .boundary => p.wordBefore wide != p.wordAfter wide
  | .inside =>
    !p.brokenBefore wide && !p.brokenAfter wide && p.wordBefore wide == p.wordAfter wide
  | .start => !p.wordBefore wide && p.wordAfter wide
  | .stop => p.wordBefore wide && !p.wordAfter wide
  | .startHalf => !p.brokenBefore wide && !p.wordBefore wide
  | .stopHalf => !p.brokenAfter wide && !p.wordAfter wide

/-- The place passes a test. -/
def passes (p : Place) : Look → Bool
  | .textStart => p.before.isEmpty
  | .textEnd => p.after.isEmpty
  | .lineStart => p.before.head?.all (· = 0x0A)
  | .lineEnd => p.after.head?.all (· = 0x0A)
  | .word edge wide => p.passesEdge wide edge

end Place

/-! ## Threads -/

/-- A way of matching that is still open. -/
structure Thread where
  /-- The instruction to go on at. -/
  pc : Nat
  /-- The column at which the match began. -/
  start : Nat
  /-- How many bytes of the last character are still to be passed. -/
  delay : Nat

namespace Program

/-- Where following branches and tests from some instructions leads to. -/
structure Settled where
  /-- The instructions that have been visited. -/
  seen : Array Bool
  /-- The instructions reached that consume, the preferred first. -/
  consuming : List Nat
  /-- A match is complete, behind all of these. -/
  accepted : Bool

/-- Marking an instruction as visited leaves fewer that have not been. -/
theorem count_set_lt {seen : Array Bool} {pc : Nat} (h : pc < seen.size) (new : seen[pc] = false) :
    (seen.set pc true h).count false < seen.count false := by
  have pos : 0 < seen.count false := Array.count_pos_iff.2 (new ▸ Array.getElem_mem h)
  rw [Array.count_set h, if_pos (by rw [new]; rfl), if_neg (by decide)]
  omega

/-- Follows branches and tests from the instructions on the stack, the preferred way first, and
visits no instruction twice. `found` holds the consuming instructions reached so far, the latest
first. -/
def settle (program : Program) (place : Place) (seen : Array Bool) (found : List Nat) :
    List Nat → Settled
  | [] => ⟨seen, found.reverse, false⟩
  | pc :: stack =>
    if h : pc < seen.size then
      if new : seen[pc] = false then
        have := count_set_lt h new
        match program.code[pc]? with
        | none => program.settle place (seen.set pc true) found stack
        | some (.char _ _) | some (.byte _ _) =>
          program.settle place (seen.set pc true) (pc :: found) stack
        | some (.look test next) =>
          if place.passes test then program.settle place (seen.set pc true) found (next :: stack)
          else program.settle place (seen.set pc true) found stack
        | some (.branch preferred other) =>
          program.settle place (seen.set pc true) found (preferred :: other :: stack)
        | some .accept => ⟨seen.set pc true, found.reverse, true⟩
      else program.settle place seen found stack
    else program.settle place seen found stack
termination_by stack => 3 * seen.count false + stack.length

/-- The thread that consumes at an instruction leads to, if what stands there fits. -/
def consume (program : Program) (place : Place) (start : Nat) (pc : Nat) : Option Thread :=
  match program.code[pc]? with
  | some (.char set next) =>
    match Text.charAt? place.after with
    | some (c, width) => if set.contains c.toNat then some ⟨next, start, width - 1⟩ else none
    | none => none
  | some (.byte set next) =>
    match place.after with
    | b :: _ => if set.contains b.toNat then some ⟨next, start, 0⟩ else none
    | [] => none
  | _ => none

/-- Takes all threads, the preferred first, over the next byte: the threads after it, and the column
where the match began that some thread completes here. The threads behind such a one are dropped. -/
def advance (program : Program) (place : Place) (seen : Array Bool) :
    List Thread → List Thread × Option Nat
  | [] => ([], none)
  | thread :: behind =>
    if thread.delay > 0 then
      let (later, completed) := program.advance place seen behind
      ({ thread with delay := thread.delay - 1 } :: later, completed)
    else
      let settled := program.settle place seen [] [thread.pc]
      let ahead := settled.consuming.filterMap (program.consume place thread.start)
      if settled.accepted then (ahead, some thread.start)
      else
        let (later, completed) := program.advance place settled.seen behind
        (ahead ++ later, completed)

/-- Runs the program from a place on. `threads` have come this far, and `found` is the match to give
if none of them completes one. -/
def scan (program : Program) (before : Bytes) (column : Nat) (threads : List Thread)
    (found : Option Span) (after : Bytes) : Option Span :=
  let threads := if found.isNone then threads ++ [⟨program.entry, column, 0⟩] else threads
  let unseen := Array.replicate program.code.size false
  let (threads, completed) := program.advance ⟨before, after⟩ unseen threads
  let found := (completed.map fun start => ⟨start, column⟩).or found
  match after with
  | [] => found
  | b :: rest =>
    if threads.isEmpty && found.isSome then found
    else program.scan (b :: before) (column + 1) threads found rest

/-- The first match in a text. -/
def find? (program : Program) (text : Bytes) : Option Span :=
  program.scan [] 0 [] none text

end Program

/-- Finds the first match of a written pattern. -/
def Matcher.pattern (text : String) : Except Pattern.Fault Matcher := do
  return Matcher.ofLine (← Pattern.compile text).find?

end ScopeSearch
