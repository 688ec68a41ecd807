import ScopeSearch.Log
import ScopeSearch.Pattern.Match

/-!
# ScopeSearch.CommandLine.LogFilter — which records are shown

A filter is a list of directives, each of which gives a verbosity to all records or to those from
origins whose path begins with some text. A filter may also ask that a pattern match the record's
message, which is a text, so that the pattern must match nothing but text.

A log library reads filters, sets the verbosity for all records in one, and decides by one which
records are shown. In the library here, of the directives that apply to a record, the one with the
longest text decides.

A filter is written as directives with commas between them, and perhaps a slash and a pattern:
`warn`, `info,scopegrep::tree=trace`, `debug/checkpoint`. A directive that cannot be read is left
out; a filter without directives shows errors only.
-/

namespace ScopeSearch.CommandLine

/-- A verbosity for the records from some origins, or for all. -/
structure Directive where
  /-- What the path of the origin has to begin with; `none` for every origin. -/
  target : Option String
  verbosity : Verbosity
deriving DecidableEq, Repr

/-- Which records are shown. -/
structure LogFilter where
  directives : List Directive
  /-- What the message has to match, if anything. -/
  message : Option Program

/-- What a log library does with filters. -/
structure LogLibrary where
  /-- Reads a filter as it is written. -/
  read : String → LogFilter
  /-- Sets the verbosity for all origins. -/
  setLevel : LogFilter → Verbosity → LogFilter
  /-- The filter shows the record. -/
  shows : LogFilter → Event → Bool

/-- The filter that is in force: the one that the environment gives, or else one that shows
warnings; with the verbosity for all origins that the command line asks for, if it does. -/
def LogLibrary.inForce (lib : LogLibrary) (environment : Option String)
    (asked : Option Verbosity) : LogFilter :=
  let given := lib.read (environment.getD "warn")
  match asked with
  | some v => lib.setLevel given v
  | none => given

namespace LogFilter

/-! ## Deciding -/

/-- The directive applies to records from an origin with this path. -/
def Applies (d : Directive) (path : String) : Prop :=
  ∀ target ∈ d.target, target.toList.isPrefixOf path.toList

instance (d : Directive) (path : String) : Decidable (Applies d path) :=
  match h : d.target with
  | none => isTrue (by simp [Applies, h])
  | some target => decidable_of_iff (target.toList.isPrefixOf path.toList) (by simp [Applies, h])

/-- How much of the path a directive names, in bytes. -/
def Directive.reach (d : Directive) : Nat :=
  (d.target.getD "").utf8ByteSize

/-- The directive that decides on records from an origin with this path: of those that apply, the
one that names the most of the path, and of equal ones the last. -/
def deciding? (directives : List Directive) (path : String) : Option Directive :=
  (directives.filter fun d => Applies d path).foldl
    (fun best d =>
      match best with
      | some b => if Directive.reach d < Directive.reach b then some b else some d
      | none => some d)
    none

/-- The filter shows the record. Without directives it shows errors. -/
def shows (f : LogFilter) (e : Event) : Bool :=
  let directives := if f.directives.isEmpty then [⟨none, .downTo .error⟩] else f.directives
  (deciding? directives e.origin.path).any (fun d => d.verbosity.Admits e.level) &&
    f.message.all fun program => (program.find? (Text.utf8 e.message)).isSome

/-! ## Reading -/

/-- The directives with one more, which takes the place of one for the same origins. -/
def insert (directives : List Directive) (d : Directive) : List Directive :=
  if directives.any fun old => old.target = d.target then
    directives.map fun old => if old.target = d.target then d else old
  else directives ++ [d]

/-- The text without blanks at its ends. -/
def trim (text : List Char) : List Char :=
  let blank (c : Char) : Bool := Text.isSpace c.toNat
  ((text.dropWhile blank).reverse.dropWhile blank).reverse

/-- The verbosity of a given name, in letters of any case. -/
def verbosity? (name : List Char) : Option Verbosity :=
  Verbosity.all.find? fun v => v.text.toList = name.map Char.toUpper

/-- Reads a directive: a verbosity, a target, or both with `=` between them. A target alone, or with
nothing behind the `=`, shows everything. -/
def readDirective? (text : List Char) : Option Directive :=
  match text.splitOn '=' with
  | [single] =>
    match verbosity? single with
    | some v => some ⟨none, v⟩
    | none => some ⟨some (String.ofList single), .downTo .trace⟩
  | [target, level] =>
    match trim level with
    | [] => some ⟨some (String.ofList target), .downTo .trace⟩
    | level => (verbosity? level).map fun v => ⟨some (String.ofList target), v⟩
  | _ => none

/-- Reads directives with commas between them. -/
def readDirectives (text : List Char) : List Directive :=
  let pieces := ((text.splitOn ',').map trim).filter fun piece => !piece.isEmpty
  (pieces.filterMap readDirective?).foldl insert []

/-- Reads a filter. With more than one slash it has no directives and no pattern. -/
def read (text : String) : LogFilter :=
  match text.toList.splitOn '/' with
  | [directives] => ⟨readDirectives directives, none⟩
  | [directives, pattern] =>
    ⟨readDirectives directives, (Pattern.compile (String.ofList pattern) true).toOption⟩
  | _ => ⟨[], none⟩

/-- The filter with a verbosity for all origins. -/
def setLevel (f : LogFilter) (v : Verbosity) : LogFilter :=
  { f with directives := insert f.directives ⟨none, v⟩ }

end LogFilter

/-- The log library that the program uses. -/
def LogLibrary.standard : LogLibrary where
  read := LogFilter.read
  setLevel := LogFilter.setLevel
  shows := LogFilter.shows

end ScopeSearch.CommandLine
