import ScopeSearch.CommandLine.Invocation

/-!
# ScopeSearch.CommandLine.Parser — the arguments from left to right

An option may have its value in the same argument or in the next one; the value of an option that
was given in an argument of its own, and the pattern, are looked at only when the next option or the
end is reached, so that an argument nobody knows is reported before a bad value in front of it.
Every option may be given once, and there is one pattern.
-/

namespace ScopeSearch.CommandLine

/-- What has been read and not been looked at yet. -/
inductive Pending where
  | nothing
  /-- An option whose value is to be the next argument. -/
  | awaiting (s : Setting)
  /-- An option and the argument that holds its value. -/
  | valued (s : Setting) (value : Bytes)
  /-- The argument that holds the pattern. -/
  | pattern (text : Bytes)
deriving DecidableEq, Repr

/-- What the arguments have given so far. -/
structure Draft where
  given : List (Setting × Bytes) := []
  pattern : Option String := none
  pending : Pending := .nothing
  /-- No further argument is an option. -/
  escaped : Bool := false
deriving DecidableEq, Repr

namespace Draft

/-- The option has been given a value. -/
def Has (d : Draft) (s : Setting) : Prop :=
  s ∈ d.given.map Prod.fst

instance (d : Draft) (s : Setting) : Decidable (d.Has s) :=
  inferInstanceAs (Decidable (_ ∈ _))

/-- An option that has no value yet is given one. -/
def give (d : Draft) (s : Setting) (value : Bytes) : Except Stop Draft :=
  if d.Has s then .error (.misuse .repeatedOption)
  else
    match s.check value with
    | .ok () => .ok { d with given := d.given ++ [(s, value)] }
    | .error e => .error (.misuse e)

/-- Looks at what is pending. -/
def settle (d : Draft) : Except Stop Draft :=
  match d.pending with
  | .nothing => .ok d
  | .awaiting _ => .error (.misuse .invalidValue)
  | .valued s value => { d with pending := .nothing }.give s value
  | .pattern text =>
    match Text.ofUtf8? text with
    | some pattern => .ok { d with pattern := some pattern, pending := .nothing }
    | none => .error (.misuse .notUtf8)

/-- A pattern has been read, whether it has been looked at or not. -/
def hasPattern (d : Draft) : Bool :=
  d.pattern.isSome ||
    match d.pending with
    | .pattern _ => true
    | _ => false

/-- Reads an argument that is no option and no option's value: the pattern, if there is none yet. -/
def readPattern (d : Draft) (arg : Bytes) : Except Stop Draft :=
  if d.hasPattern then .error (.misuse .unknownArgument)
  else do return { ← d.settle with pending := .pattern arg }

/-- Reads an option with a value, or without one. -/
def readSetting (d : Draft) (s : Setting) (value : Option Bytes) : Except Stop Draft := do
  let d ← d.settle
  match value.or s.impliedValue? with
  | some value => d.give s value
  | none => return { d with pending := .awaiting s }

/-- Looks at what is pending, and then there is nothing more to be done. -/
def readStop (d : Draft) (stop : Stop) : Except Stop Draft := do
  let _ ← d.settle
  .error stop

/-- Reads what follows two dashes: the name of an option, and a value behind `=`. -/
def readLong (d : Draft) (text : Bytes) : Except Stop Draft :=
  let name := nameOf text
  let value := valueOf? text
  match Setting.ofName? name with
  | some s => d.readSetting s value
  | none =>
    let stop : Option Stop :=
      if name = Text.utf8 "help" then some .help
      else if name = Text.utf8 "version" then some .version
      else none
    match stop, value with
    | none, _ => .error (.misuse .unknownArgument)
    | some _, some _ => .error (.misuse .unwantedValue)
    | some stop, none => d.readStop stop

/-- Reads what follows a single dash: a letter, and a value behind it, with or without `=`. -/
def readShort (d : Draft) (letter : UInt8) (text : Bytes) : Except Stop Draft :=
  match Setting.ofLetter? letter with
  | some s =>
    match text with
    | [] => d.readSetting s none
    | b :: rest => d.readSetting s (some (if b = equalsSign then rest else text))
  | none =>
    if letter = 0x68 then d.readStop .help
    else if letter = 0x56 then d.readStop .version
    else .error (.misuse .unknownArgument)

/-- Reads one argument. -/
def read (d : Draft) (arg : Bytes) : Except Stop Draft :=
  if d.escaped then d.readPattern arg
  else
    match arg with
    | [0x2D, 0x2D] => .ok { d with escaped := true }
    | 0x2D :: 0x2D :: text => d.readLong text
    | 0x2D :: b :: text => d.readShort b text
    | _ =>
      match d.pending with
      | .awaiting s => .ok { d with pending := .valued s arg }
      | _ => d.readPattern arg

/-- What the arguments give, once all of them have been read. -/
def finish (d : Draft) : Except Stop Matches := do
  let d ← d.settle
  match d.pattern with
  | none => .error (.misuse .missingPattern)
  | some pattern => return ⟨pattern, d.given⟩

/-- Reads arguments one after the other: what they give. -/
def run (d : Draft) (args : List Bytes) : Except Stop Matches := do
  (← args.foldlM read d).finish

end Draft

/-- Reads a command line from left to right, behind the program's name. -/
def readArguments : ArgumentParser :=
  fun args => Draft.run {} args.tail

/-- What a command line asks for, the program's name included. -/
def parse (args : List Bytes) : Except Stop Invocation :=
  parseWith readArguments args

end ScopeSearch.CommandLine
