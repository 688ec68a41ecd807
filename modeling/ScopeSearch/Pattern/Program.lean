import ScopeSearch.Pattern.Reading
import ScopeSearch.Pattern.Size

/-!
# ScopeSearch.Pattern.Program — patterns as programs

A program is a list of instructions that name each other by number. Running it means to be at one
instruction: some consume a character or a byte and go on, some test the place, and a branch goes
on in two ways, of which the first is preferred. A match is complete at `accept`.

Programs are put together from the end: what matches a pattern is emitted with the instruction at
which to go on after it.
-/

namespace ScopeSearch

/-- One instruction of a program, with the instructions to go on at. -/
inductive Instruction where
  | char (set : CharSet) (next : Nat)
  | byte (set : CharSet) (next : Nat)
  | look (test : Look) (next : Nat)
  | branch (preferred other : Nat)
  | accept
deriving DecidableEq, Repr

/-- A program and the instruction at which it starts. -/
structure Program where
  code : Array Instruction
  entry : Nat
deriving DecidableEq, Repr

/-- Adds instructions to a program under construction: given the instruction to go on at afterwards
and the code so far, the instruction to start at and the longer code. -/
abbrev Emit := Nat → Array Instruction → Nat × Array Instruction

namespace Emit

/-- One instruction. -/
def one (instruction : Nat → Instruction) : Emit :=
  fun next code => (code.size, code.push (instruction next))

/-- No instruction. -/
def nothing : Emit :=
  fun next code => (next, code)

/-- One after the other. -/
def andThen (a b : Emit) : Emit :=
  fun next code =>
    let (middle, code) := b next code
    a middle code

/-- Either, and the first rather than the second. -/
def orElse (a b : Emit) : Emit :=
  fun next code =>
    let (second, code) := b next code
    let (first, code) := a next code
    (code.size, code.push (.branch first second))

/-- Goes into a round or past it, whichever is preferred first. -/
def choose (greedy : Bool) (round past : Nat) : Instruction :=
  if greedy then .branch round past else .branch past round

/-- Exactly `n` rounds. -/
def times (n : Nat) (round : Emit) : Emit :=
  fun next code => Nat.repeat (fun (next, code) => round next code) n (next, code)

/-- At most `n` rounds; whoever skips one skips all that are left. -/
def upTo (n : Nat) (greedy : Bool) (round : Emit) : Emit :=
  fun next code =>
    Nat.repeat
      (fun (further, code) =>
        let (start, code) := round further code
        (code.size, code.push (choose greedy start next)))
      n (next, code)

/-- One round or more: after each, a branch leads back or on. -/
def oneOrMore (greedy : Bool) (round : Emit) : Emit :=
  fun next code =>
    let again := code.size
    let (start, code) := round again (code.push .accept)
    (start, code.setIfInBounds again (choose greedy start next))

/-- Any number of rounds, none of which is empty: before each, a branch leads in or on. -/
def anyNumber (greedy : Bool) (round : Emit) : Emit :=
  fun next code =>
    let again := code.size
    let (start, code) := round again (code.push .accept)
    (again, code.setIfInBounds again (choose greedy start next))

end Emit

namespace Pattern

/-- Emits a repetition of a pattern. An empty round must not lead back to the branch before it, so
rounds that may be empty are tried once before they are repeated. -/
def emitRepeated (round : Emit) (mayBeEmpty : Bool) (min : Nat) (max : Option Nat)
    (greedy : Bool) : Emit :=
  match max with
  | some max => (round.times min).andThen (round.upTo (max - min) greedy)
  | none =>
    match min with
    | 0 =>
      if mayBeEmpty then (round.oneOrMore greedy).upTo 1 greedy else round.anyNumber greedy
    | min + 1 => (round.times min).andThen (round.oneOrMore greedy)

/-- Emits what matches a pattern. -/
def emit : Pattern → Emit
  | .empty => .nothing
  | .literal text =>
    text.foldr (fun b after => .andThen (.one (.byte (.single b.toNat))) after) .nothing
  | .char set => .one (.char set)
  | .byte set => .one (.byte set)
  | .look test => .one (.look test)
  | .seq a b => a.emit.andThen b.emit
  | .alt a b => a.emit.orElse b.emit
  | .repeated a min max greedy => emitRepeated a.emit a.mayBeEmpty min max greedy
  | .group _ a => a.emit

/-- The program that matches a pattern. -/
def toProgram (p : Pattern) : Program :=
  let (entry, code) := p.emit 0 #[.accept]
  ⟨code, entry⟩

/-- The program for a written pattern, unless it is no pattern or takes too much room; if
`textOnly`, for one that matches nothing but text. -/
def compile (text : String) (textOnly : Bool := false) : Except Fault Program := do
  let p ← ofText text textOnly
  if p.fits then return p.toProgram else .error .tooLarge

end Pattern

end ScopeSearch
