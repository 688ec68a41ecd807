import ScopeSearch.Text.Utf8

/-!
# ScopeSearch.CommandLine.Arguments — one dash or two

Some options have long names that may be written with one dash as well as with two. `normalize`
adds the missing dash, and leaves everything else as it is: other arguments, and everything from the
first `--` on.
-/

namespace ScopeSearch.CommandLine

/-- The byte `-`. -/
def dash : UInt8 := 0x2D

/-- The byte `=`. -/
def equalsSign : UInt8 := 0x3D

/-- The argument after which nothing is an option. -/
def escape : Bytes := [dash, dash]

/-- The names that may follow a single dash. -/
def singleDashNames : List Bytes :=
  ["only", "pretty", "scopes"].map Text.utf8

/-- What stands before the first `=`. -/
def nameOf (text : Bytes) : Bytes :=
  text.takeWhile (· != equalsSign)

/-- What stands after the first `=`, if there is one. -/
def valueOf? (text : Bytes) : Option Bytes :=
  match text.dropWhile (· != equalsSign) with
  | [] => none
  | _ :: value => some value

/-- The argument is a long option behind a single dash. -/
def isSingleDashed : Bytes → Bool
  | [] => false
  | b :: rest =>
    b = dash && rest.head? != some dash && singleDashNames.contains (nameOf rest) &&
      (Text.ofUtf8? (b :: rest)).isSome

/-- One argument with its dashes made up. -/
def normalizeOne (arg : Bytes) : Bytes :=
  if isSingleDashed arg then dash :: arg else arg

/-- Arguments with their dashes made up, as far as the first `--`. -/
def normalize : List Bytes → List Bytes
  | [] => []
  | arg :: rest => if arg = escape then arg :: rest else normalizeOne arg :: normalize rest

end ScopeSearch.CommandLine
