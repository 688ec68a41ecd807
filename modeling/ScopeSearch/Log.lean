import ScopeSearch.Forest.Reading
import ScopeSearch.Text.Plain

/-!
# ScopeSearch.Log — what a search says about its work

A search keeps a record of what it leaves out and of what it releases. Every record has a level and
comes from one part of the program, by which a reader may choose what to see.
-/

namespace ScopeSearch

/-- How much a record matters, the gravest first. -/
inductive Level where
  | error
  | warn
  | info
  | debug
  | trace
deriving DecidableEq, Repr

namespace Level

/-- Graver levels have smaller ranks, from one on. -/
def rank : Level → Nat
  | .error => 1
  | .warn => 2
  | .info => 3
  | .debug => 4
  | .trace => 5

/-- The level as it stands in a log line. -/
def text : Level → String
  | .error => "ERROR"
  | .warn => "WARN"
  | .info => "INFO"
  | .debug => "DEBUG"
  | .trace => "TRACE"

end Level

/-- How much is to be logged: nothing, or everything down to a level. -/
inductive Verbosity where
  | off
  | downTo (level : Level)
deriving DecidableEq, Repr

namespace Verbosity

/-- A record of the given level is to be logged. -/
def Admits : Verbosity → Level → Prop
  | .off, _ => False
  | .downTo limit, level => level.rank ≤ limit.rank

instance : ∀ (v : Verbosity) (level : Level), Decidable (v.Admits level)
  | .off, _ => isFalse id
  | .downTo _, _ => inferInstanceAs (Decidable (_ ≤ _))

/-- The verbosity as it is shown. -/
def text : Verbosity → String
  | .off => "OFF"
  | .downTo level => level.text

/-- Every verbosity, from silence to everything. -/
def all : List Verbosity :=
  .off :: [Level.error, .warn, .info, .debug, .trace].map .downTo

end Verbosity

/-- The part of the program that a record comes from. -/
inductive Origin where
  | forest
  | search
  | run
  | program
deriving DecidableEq, Repr

/-- The name by which log filters and log lines call a part of the program. -/
def Origin.path : Origin → String
  | .forest => "scopegrep::tree"
  | .search => "scopegrep::grep"
  | .run => "scopegrep::run"
  | .program => "scopegrep"

/-- A record of the log. -/
inductive Event where
  /-- A closer was left out. -/
  | strayCloser (stray : Stray)
  /-- No scope contains the match that starts on this line at this column. -/
  | matchOutside (line column : Nat) (text : Bytes)
  /-- The nesting has come back to zero after this line, and so many reports are released. -/
  | checkpoint (line reports : Nat)
  /-- The input ended with so many scopes open, and so many of them are reported. -/
  | inputEnded (depth reports : Nat)
  /-- The last line has no line break and so many bytes, and is not searched. -/
  | fragmentDropped (bytes : Nat)
  /-- Options were given that change nothing. -/
  | optionsIgnored
  /-- What a whole run has read and written. -/
  | runFinished (lines reports unterminated : Nat)
deriving DecidableEq, Repr

namespace Event

/-- How much the record matters. -/
def level : Event → Level
  | .strayCloser _ | .matchOutside .. => .trace
  | .checkpoint .. | .inputEnded .. | .fragmentDropped _ | .runFinished .. => .debug
  | .optionsIgnored => .warn

/-- Where the record comes from. -/
def origin : Event → Origin
  | .strayCloser _ => .forest
  | .matchOutside .. | .checkpoint .. | .inputEnded .. => .search
  | .fragmentDropped _ => .run
  | .optionsIgnored | .runFinished .. => .program

/-- The words of the record. -/
def message : Event → String
  | .strayCloser ⟨marker, cause⟩ =>
    "ignoring " ++ marker.delimiter.text ++ " at " ++ marker.position.text ++ ": " ++
      match cause with
      | .nothingOpen => "nothing open"
      | .innermostOpenedWith opener => "innermost scope opened with " ++ opener.text
  | .matchOutside line column text =>
    "match at " ++ (⟨line, column⟩ : Position).text ++ " is outside every scope: " ++
      Text.lossy text
  | .checkpoint line reports =>
    "checkpoint at line " ++ line.repr ++ ": " ++ reports.repr ++ " report(s)"
  | .inputEnded depth reports =>
    "input ended at depth " ++ depth.repr ++ " with " ++ reports.repr ++
      " matched open scope(s)"
  | .fragmentDropped bytes =>
    "dropping " ++ bytes.repr ++ " byte(s) of unterminated final line"
  | .optionsIgnored => "-only and -pretty are accepted but do not change the output"
  | .runFinished lines reports unterminated =>
    lines.repr ++ " line(s) read, " ++ reports.repr ++ " report(s), " ++ unterminated.repr ++
      " unterminated"

/-- The record's words as a log writes them: a line break ends them, and every line after the first
is indented. -/
def paragraph (e : Event) : String :=
  let indented (c : Char) : List Char := if c = '\n' then ['\n', ' ', ' ', ' ', ' '] else [c]
  String.ofList (e.message.toList.flatMap indented ++ ['\n'])

/-- The words as a log shows them, without control sequences. A sequence that the words leave
unfinished hides the line breaks too. -/
def shownParagraph (e : Event) : String :=
  Text.lossy (Text.plain (Text.utf8 e.paragraph))

/-- The words on the line of the log where the record begins. A carriage return before the line
break belongs to the break; where no break is shown, it is one of the words. -/
def headline (e : Event) : String :=
  let words := e.shownParagraph.toList
  let line := words.takeWhile (· != '\n')
  String.ofList
    (if line.length < words.length && line.getLast? = some '\r' then line.dropLast else line)

end Event

end ScopeSearch
