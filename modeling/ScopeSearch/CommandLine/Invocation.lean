import ScopeSearch.CommandLine.Arguments
import ScopeSearch.Log
import ScopeSearch.Search

/-!
# ScopeSearch.CommandLine.Invocation — what a command line asks for

The options are declared one by one: their names, and the values that they take. An argument parser
goes by the declarations and finds out which options a command line gives, and with which values; an
invocation is made of what it has found, with defaults for what it has not.
-/

namespace ScopeSearch.CommandLine

/-! ## What is asked for -/

/-- A search as the command line asks for it. -/
structure Invocation where
  pattern : String
  options : Options
  /-- How much is to be logged, if the command line says so. -/
  verbosity : Option Verbosity
deriving DecidableEq, Repr

/-- Why a command line asks for no search. -/
inductive UsageError where
  | missingPattern
  | unknownArgument
  /-- A value is missing, or is none of those the option knows. -/
  | invalidValue
  | notANumber
  | repeatedOption
  /-- A value was given where none is wanted. -/
  | unwantedValue
  /-- A value that has to be text is none. -/
  | notUtf8
deriving DecidableEq, Repr

/-- What a command line leads to instead of a search. -/
inductive Stop where
  | help
  | version
  | misuse (error : UsageError)
deriving DecidableEq, Repr

/-! ## Options -/

/-- The options that have a value. -/
inductive Setting where
  | scopes
  | only
  | pretty
  | logLevel
deriving DecidableEq, Repr

/-- How an option is declared. -/
structure Declaration where
  /-- Its name behind two dashes. -/
  long : String
  /-- Its letter behind one dash, if it has one. -/
  short : Option UInt8 := none
  /-- The value that it stands for where it has none of its own. An option with such a value takes
  no other but behind `=`. -/
  implied : Option String := none
deriving DecidableEq, Repr

namespace Setting

def declaration : Setting → Declaration
  | .scopes => { long := "scopes", short := some 0x6E }
  | .only => { long := "only", implied := some "true" }
  | .pretty => { long := "pretty", implied := some "true" }
  | .logLevel => { long := "log-level" }

def all : List Setting :=
  [.scopes, .only, .pretty, .logLevel]

/-- The long name of an option. -/
def name (s : Setting) : String :=
  s.declaration.long

/-- The option of a given long name. -/
def ofName? (name : Bytes) : Option Setting :=
  all.find? fun s => Text.utf8 s.name = name

/-- The option of a given letter. -/
def ofLetter? (letter : UInt8) : Option Setting :=
  all.find? fun s => s.declaration.short = some letter

/-- The value that an option without one stands for. -/
def impliedValue? (s : Setting) : Option Bytes :=
  s.declaration.implied.map Text.utf8

end Setting

/-! ## Values -/

/-- The number that some decimal digits spell. -/
def decimalValue? (digits : Bytes) : Option Nat :=
  if digits.isEmpty then none
  else
    digits.foldlM
      (fun n d => if 0x30 ≤ d ∧ d ≤ 0x39 then some (n * 10 + (d.toNat - 0x30)) else none) 0

/-- The least number that is too large to be written: the 64th power of two. -/
def numberLimit : Nat := 18446744073709551616

/-- Reads a number: decimal digits, after a plus sign perhaps, for a number below the limit. -/
def readNumber (value : Bytes) : Except UsageError Nat :=
  let digits :=
    match value with
    | 0x2B :: rest => rest
    | _ => value
  if (Text.ofUtf8? value).isNone then .error .notUtf8
  else
    match decimalValue? digits with
    | some n => if n < numberLimit then .ok n else .error .notANumber
    | none => .error .notANumber

/-- Reads `true` or `false`. -/
def readBool (value : Bytes) : Except UsageError Bool :=
  if value = Text.utf8 "true" then .ok true
  else if value = Text.utf8 "false" then .ok false
  else .error .invalidValue

/-- The name by which an option asks for a verbosity. -/
def verbosityName : Verbosity → String
  | .off => "off"
  | .downTo .error => "error"
  | .downTo .warn => "warn"
  | .downTo .info => "info"
  | .downTo .debug => "debug"
  | .downTo .trace => "trace"

/-- Reads the name of a verbosity, in small letters. -/
def readVerbosity (value : Bytes) : Except UsageError Verbosity :=
  match Verbosity.all.find? fun v => Text.utf8 (verbosityName v) = value with
  | some v => .ok v
  | none => .error .invalidValue

/-- Why an option does not take a value, if it does not. -/
def Setting.check (s : Setting) (value : Bytes) : Except UsageError Unit :=
  match s with
  | .scopes => (readNumber value).map fun _ => ()
  | .only | .pretty => (readBool value).map fun _ => ()
  | .logLevel => (readVerbosity value).map fun _ => ()

/-- The option takes the value. -/
def Setting.Takes (s : Setting) (value : Bytes) : Prop :=
  s.check value = .ok ()

/-! ## Parsing -/

/-- What a command line gives: the pattern, and values for options, in their order. -/
structure Matches where
  pattern : String
  given : List (Setting × Bytes)
deriving DecidableEq, Repr

namespace Matches

/-- The options that are given. -/
def settings (m : Matches) : List Setting :=
  m.given.map Prod.fst

/-- The value of an option, if it is given. -/
def value? {α : Type} (m : Matches) (s : Setting) (read : Bytes → Except UsageError α) :
    Except UsageError (Option α) :=
  match m.given.lookup s with
  | some value => (read value).map some
  | none => .ok none

end Matches

/-- Finds out what a command line gives, the program's name included. -/
abbrev ArgumentParser := List Bytes → Except Stop Matches

/-- The search that a command line asks for by what it gives: one scope for each match, and no
other option, unless it says otherwise. -/
def Invocation.ofMatches (m : Matches) : Except UsageError Invocation := do
  let scopes ← m.value? .scopes readNumber
  let only ← m.value? .only readBool
  let pretty ← m.value? .pretty readBool
  let verbosity ← m.value? .logLevel readVerbosity
  let options : Options :=
    { scopes := scopes.getD 1, only := only.getD false, pretty := pretty.getD false }
  return ⟨m.pattern, options, verbosity⟩

/-- What a command line asks for, the program's name included, with its dashes as they are. -/
def parseStrictWith (parser : ArgumentParser) (args : List Bytes) : Except Stop Invocation := do
  let m ← parser args
  (Invocation.ofMatches m).mapError .misuse

/-- What a command line asks for, the program's name included. -/
def parseWith (parser : ArgumentParser) (args : List Bytes) : Except Stop Invocation :=
  parseStrictWith parser (normalize args)

end ScopeSearch.CommandLine
