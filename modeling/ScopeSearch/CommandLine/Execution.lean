import ScopeSearch.CommandLine.LogFilter
import ScopeSearch.CommandLine.Parser
import ScopeSearch.Failure
import ScopeSearch.Text.Quoted

/-!
# ScopeSearch.CommandLine.Execution — the whole program

The program searches its standard input for the pattern that its arguments give, and writes the
reports to its standard output. It ends with code 0, with 1 if the pattern is none, and with 2 if
the arguments are wrong.

Its argument parser, its log library and its pattern compiler are made elsewhere, so `executeWith`
is the program for any of them, and `execute` the one with those that are here.
-/

namespace ScopeSearch.CommandLine

/-- The name and the version that the program gives itself. -/
def versionText : String := "scopegrep 0.1.0\n"

/-- What the program says about its use. -/
def helpText : String :=
  String.join <| List.map (· ++ "\n")
    ["scopegrep - print the delimiter scopes that enclose pattern matches",
     "",
     "Usage: scopegrep [OPTIONS] <PATTERN>",
     "",
     "Arguments:",
     "  <PATTERN>  Regular expression to search for; the first match on each line counts",
     "",
     "Options:",
     "  -n, --scopes <N>         Number of enclosing scopes to mark for each match [default: 1]",
     "      --only[=<BOOL>]      Don't print the surrounding line context (accepted, no effect)",
     "      --pretty[=<BOOL>]    Use colors (accepted, no effect)",
     "      --log-level <LEVEL>  Set log level (overrides RUST_LOG)",
     "  -h, --help               Print help",
     "  -V, --version            Print version"]

/-- What the program has done when it ends. -/
structure Execution where
  exitCode : Nat
  output : Bytes := []
  /-- The records shown. -/
  log : List Event := []
  /-- Why it ends early, in words. -/
  failure : Option String := none
deriving DecidableEq, Repr

/-- What the program does instead of a search. -/
def Stop.execution : Stop → Execution
  | .help => { exitCode := 0, output := Text.utf8 helpText }
  | .version => { exitCode := 0, output := Text.utf8 versionText }
  | .misuse _ => { exitCode := 2 }

/-- The words for a pattern that is none. -/
def patternFailure (pattern : String) : String :=
  "Error: cannot compile pattern " ++ Text.quoted pattern

/-- The words for a run that has failed. -/
def runFailure : String :=
  "Error: search failed"

/-- What the program gets from elsewhere. -/
structure Libraries where
  parser : ArgumentParser
  log : LogLibrary
  compile : String → Except Pattern.Fault Matcher

/-- The libraries that the program uses. -/
def Libraries.standard : Libraries where
  parser := readArguments
  log := .standard
  compile := Matcher.pattern

/-- Searches `input` as asked, and logs what is to be shown. -/
def search (compile : String → Except Pattern.Fault Matcher) (invocation : Invocation)
    (shows : Event → Bool) (input : Bytes) : Execution :=
  let options := invocation.options
  let warning := if options.only || options.pretty then [Event.optionsIgnored] else []
  match compile invocation.pattern with
  | .error _ =>
    { exitCode := 1
      log := warning.filter shows
      failure := some (patternFailure invocation.pattern) }
  | .ok matcher =>
    let outcome := run matcher options { text := input } {}
    match outcome.result with
    | .ok summary =>
      let finished := Event.runFinished summary.lines summary.reports summary.unterminated
      { exitCode := 0
        output := outcome.written
        log := (warning ++ outcome.events ++ [finished]).filter shows }
    | .error _ =>
      { exitCode := 1
        output := outcome.written
        log := (warning ++ outcome.events).filter shows
        failure := some runFailure }

/-- Runs the program on a command line, its own name included, a standard input, and the log filter
of its environment. -/
def executeWith (libs : Libraries) (args : List Bytes) (input : Bytes)
    (environment : Option String) : Execution :=
  match parseWith libs.parser args with
  | .error stop => stop.execution
  | .ok invocation =>
    search libs.compile invocation
      (libs.log.shows (libs.log.inForce environment invocation.verbosity)) input

/-- Runs the program with its own libraries. -/
def execute (args : List Bytes) (input : Bytes) (environment : Option String) : Execution :=
  executeWith .standard args input environment

end ScopeSearch.CommandLine
