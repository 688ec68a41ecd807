import ScopeSearch.Pattern.CharSet
import ScopeSearch.Text.Spelling
import Std.Data.HashMap

/-!
# ScopeSearch.Pattern.Room — the room that a machine takes

A pattern is matched by machines that read single bytes. A machine is laid out state by state, and
its states are numbered as they come. `Room` says how far the layout has come: how many states
there are, and how much they take.

The states for a set of characters follow the bytes that spell its members. A state that does what
an earlier one for the same set does is not laid out again: the earlier one is used instead.
Earlier states are kept in a fixed number of slots, which are chosen by a hash of what a state
does. As it names the states that come next, and as a later state takes the slot of an earlier one,
the room for a set depends on the number of its first state.
-/

namespace ScopeSearch

/-! ## Room -/

/-- The room for a state. -/
def stateSize : Nat := 32

/-- The room for a way out of a branch. -/
def waySize : Nat := 4

/-- The room for a range of bytes that a state tells apart from others. -/
def rangeSize : Nat := 8

/-- The room that a machine may take. -/
def sizeLimit : Nat := 10485760

/-- What has been laid out of a machine. -/
structure Room where
  /-- How many states there are, which is the number of the next one. -/
  states : Nat
  /-- What they take. -/
  bytes : Nat
deriving DecidableEq, Repr

namespace Room

/-- Nothing has been laid out. -/
def empty : Room := ⟨0, 0⟩

/-- Lays out `n` plain states. -/
def addStates (r : Room) (n : Nat) : Room :=
  ⟨r.states + n, r.bytes + stateSize * n⟩

/-- Adds ways out of branches. -/
def addWays (r : Room) (n : Nat) : Room :=
  { r with bytes := r.bytes + waySize * n }

/-- Lays out a state that branches into so many ways. -/
def addBranch (r : Room) (ways : Nat) : Room :=
  (r.addStates 1).addWays ways

/-- Lays out a state that tells apart so many ranges of bytes. -/
def addSparse (r : Room) (ranges : Nat) : Room :=
  ⟨r.states + 1, r.bytes + stateSize + rangeSize * ranges⟩

/-- The machine takes more room than it may. -/
def isOverfull (r : Room) : Bool :=
  sizeLimit < r.bytes

/-- Lays out the same thing `n` times, as long as there is room. -/
def addRounds (round : Room → Room) : (n : Nat) → Room → Room
  | 0, r => r
  | n + 1, r => if r.isOverfull then r else addRounds round n (round r)

end Room

/-! ## States that are used again -/

/-- The slot, of so many, for a state that does what the numbers say. -/
def slotOf (slots : Nat) (task : List Nat) : Nat :=
  let hash : UInt64 := task.foldl (fun hash n => (hash ^^^ n.toUInt64) * 1099511628211)
    14695981039346656037
  hash.toNat % slots

/-- The layout of the states for one set. -/
structure SetLayout where
  room : Room
  /-- In each slot that has been taken, the last state that belongs there: what it does, and its
  number. -/
  kept : Std.HashMap Nat (List Nat × Nat)

namespace SetLayout

/-- The number of a state that does what the numbers say. It is laid out as `add` says, unless one
like it is kept in its slot. -/
def place (l : SetLayout) (slots : Nat) (task : List Nat) (add : Room → Room) :
    Nat × SetLayout :=
  let slot := slotOf slots task
  match l.kept[slot]?.filter fun (other, _) => other = task with
  | some (_, number) => (number, l)
  | none => (l.room.states, ⟨add l.room, l.kept.insert slot (task, l.room.states)⟩)

/-! ## Forward -/

/-- The ranges that spellings begin with, each with what the spellings that begin with it have after
it. Those stand next to each other. -/
def starts (spellings : List Text.Spelling) : List (Text.ByteRange × List Text.Spelling) :=
  (spellings.splitBy fun a b => a.head? = b.head?).filterMap fun run =>
    run.head?.bind List.head? |>.map fun range => (range, run.map List.tail)

/-- How many states are kept for a machine that reads forward. -/
def forwardSlots : Nat := 10000

/-- Lays out what tells apart some spellings and goes on to the state `target`, each state after
those that come next. Gives the number of the first state. `depth` is at least the length of the
longest spelling. -/
def forward (target : Nat) : (depth : Nat) → List Text.Spelling → SetLayout → Nat × SetLayout
  | 0, _, l => (target, l)
  | depth + 1, spellings, l =>
    if spellings.all List.isEmpty then (target, l)
    else
      let starts := starts spellings
      let (task, l) := starts.foldl
        (fun (task, l) (range, rest) =>
          let (next, l) := forward target depth rest l
          (task ++ [range.1, range.2, next], l))
        ([], l)
      l.place forwardSlots task fun r => r.addSparse starts.length

/-! ## Backward -/

/-- How many states are kept for a machine that reads backward. -/
def backwardSlots : Nat := 1000

/-- Lays out what reads a spelling from its end and goes on to the state `target`, the last state
first. -/
def backward (target : Nat) (l : SetLayout) (spelling : Text.Spelling) : SetLayout :=
  let (_, l) := spelling.foldl
    (fun (next, l) (low, high) => l.place backwardSlots [next, low, high] fun r => r.addStates 1)
    (target, l)
  l

end SetLayout

/-! ## Sets -/

/-- The way in which a machine reads a text. -/
inductive Direction where
  | forward
  | backward
deriving DecidableEq, Repr

namespace CharSet

/-- Lays out what reads one byte of the set. -/
def layOutBytes (set : CharSet) (r : Room) : Room :=
  (r.addStates 1).addSparse set.ranges.length

/-- Lays out what reads one character of the set. Forward, all spellings share what follows alike;
backward, there is a way for each of them, and they share what is read last. -/
def layOutChars (set : CharSet) (d : Direction) (r : Room) : Room :=
  let spellings := Text.spellings set.ranges
  match d with
  | .forward => (SetLayout.forward r.states 4 spellings ⟨r.addStates 1, ∅⟩).2.room
  | .backward =>
    let target := r.states + 1
    (spellings.foldl (SetLayout.backward target)
      ⟨(r.addBranch spellings.length).addStates 1, ∅⟩).room

end CharSet

end ScopeSearch
