import ScopeSearch.CommandLine.Invocation

/-!
# ScopeSearch.Proofs.CommandLine.Conventions — what is relied on of an argument parser

An argument parser goes by the declarations of the options. What is said about command lines holds
with any parser that keeps to the conventions:

* `Gives` — the ways in which an option is given a value;
* `ArgumentParser.Understands` — options are understood one by one, wherever the pattern stands;
* `ArgumentParser.Rejects` — letters that no option has are rejected, and so are values that look
  like options.
-/

namespace ScopeSearch.CommandLine

/-! ## Spellings -/

/-- The arguments give the value to the option. -/
inductive Gives : List Bytes → Setting → Bytes → Prop where
  /-- A long name and a value behind `=`. -/
  | long (s : Setting) (value : Bytes) :
      Gives [dash :: dash :: (Text.utf8 s.name ++ equalsSign :: value)] s value
  /-- A long name, and a value in the next argument. -/
  | longApart {s : Setting} {value : Bytes} (himplied : s.declaration.implied = none)
      (hvalue : value.head? ≠ some dash) :
      Gives [dash :: dash :: Text.utf8 s.name, value] s value
  /-- A letter and a value behind `=`. -/
  | short {s : Setting} {letter : UInt8} (hletter : s.declaration.short = some letter)
      (value : Bytes) :
      Gives [dash :: letter :: equalsSign :: value] s value
  /-- A letter, and a value in the next argument. -/
  | shortApart {s : Setting} {letter : UInt8} {value : Bytes}
      (hletter : s.declaration.short = some letter) (himplied : s.declaration.implied = none)
      (hvalue : value.head? ≠ some dash) :
      Gives [[dash, letter], value] s value
  /-- A long name alone, for the value that it stands for. -/
  | implied {s : Setting} {value : String} (himplied : s.declaration.implied = some value) :
      Gives [dash :: dash :: Text.utf8 s.name] s (Text.utf8 value)

/-- The argument leaves the value of its option to the next one. -/
inductive Awaits : Bytes → Prop where
  | long {s : Setting} (himplied : s.declaration.implied = none) :
      Awaits (dash :: dash :: Text.utf8 s.name)
  | short {s : Setting} {letter : UInt8} (hletter : s.declaration.short = some letter)
      (himplied : s.declaration.implied = none) :
      Awaits [dash, letter]

/-- The letters that may stand behind one dash: those of options, of the help and of the version. -/
def knownLetters : List UInt8 :=
  0x68 :: 0x56 :: Setting.all.filterMap fun s => s.declaration.short

/-! ## Parsers -/

namespace ArgumentParser

/-- A parser understands options and a pattern. -/
structure Understands (parser : ArgumentParser) : Prop where
  /-- Any text is the pattern behind `--`. -/
  escaped (program : Bytes) (pattern : String) :
    parser [program, escape, Text.utf8 pattern] = .ok ⟨pattern, []⟩
  /-- A text that begins with no dash is the pattern. -/
  positional (program : Bytes) {pattern : String}
      (hpattern : (Text.utf8 pattern).head? ≠ some dash) :
    parser [program, Text.utf8 pattern] = .ok ⟨pattern, []⟩
  /-- An option may be given behind the pattern as well as in front of it. -/
  intermixed (program : Bytes) {pattern : String} {group : List Bytes} {s : Setting} {value : Bytes}
      (hpattern : (Text.utf8 pattern).head? ≠ some dash) (hgives : Gives group s value)
      (htakes : s.Takes value) (rest : List Bytes) :
    parser (program :: Text.utf8 pattern :: (group ++ rest)) =
      parser (program :: (group ++ Text.utf8 pattern :: rest))
  /-- An option that is given once more has its value, unless it has been given before. -/
  given {program : Bytes} {rest group : List Bytes} {m : Matches} {s : Setting} {value : Bytes}
      (hrest : parser (program :: rest) = .ok m) (hgives : Gives group s value)
      (htakes : s.Takes value) :
    parser (program :: (group ++ rest)) =
      if s ∈ m.settings then .error (.misuse .repeatedOption)
      else .ok { m with given := (s, value) :: m.given }
  /-- Nothing in front makes up for an option that is given twice. -/
  repeated {program : Bytes} {rest group : List Bytes} {s : Setting} {value : Bytes}
      (hrest : parser (program :: rest) = .error (.misuse .repeatedOption))
      (hgives : Gives group s value) (htakes : s.Takes value) :
    parser (program :: (group ++ rest)) = .error (.misuse .repeatedOption)

/-- A parser rejects what is no option where one may stand. -/
structure Rejects (parser : ArgumentParser) : Prop where
  /-- The name of the program makes no difference. -/
  program_name (program program' : Bytes) (args : List Bytes) :
    parser (program :: args) = parser (program' :: args)
  /-- Behind one dash has to stand a letter that is known. -/
  unknown_letter (program : Bytes) {before : List Bytes} {letter : UInt8}
      (hescape : escape ∉ before) (hbefore : ∀ name ∈ before.getLast?, ¬ Awaits name)
      (hdash : letter ≠ dash) (hletter : letter ∉ knownLetters) (text : Bytes)
      (rest : List Bytes) (m : Matches) :
    parser (program :: (before ++ (dash :: letter :: text) :: rest)) ≠ .ok m
  /-- A value in an argument of its own must not begin with a dash. -/
  dashed_value (program : Bytes) {before : List Bytes} {name : Bytes} {b : UInt8}
      (hescape : escape ∉ before) (hname : Awaits name) (hb : b ≠ dash) (text : Bytes)
      (rest : List Bytes) (m : Matches) :
    parser (program :: (before ++ name :: (dash :: b :: text) :: rest)) ≠ .ok m

end ArgumentParser

end ScopeSearch.CommandLine
