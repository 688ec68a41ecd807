import ScopeSearch.Proofs.CommandLine.Normalization

/-!
# ScopeSearch.Proofs.CommandLine.Phrases — the spellings of options

An option may be spelled in several ways: with one dash or two, with its value behind `=` or in an
argument of its own, and a number with a plus sign and with zeros in front. A `Phrase` is an option
with a value in one of these spellings.

* `readNumber_text`, `readBool_boolName`, `readVerbosity_verbosityName` — values are read back from
  all their spellings;
* `map_normalizeOne_args` — normalizing makes the spellings with one dash those with two;
* `Phrase.gives`, `Phrase.takes` — and these are conventional.
-/

namespace ScopeSearch.CommandLine

/-! ## Values -/

/-- A number as it may be written: its decimal digits, with zeros and a plus sign in front
perhaps. -/
structure Numeral where
  plus : Bool
  zeros : Nat
  value : Nat
  lt_limit : value < numberLimit

namespace Numeral

variable (n : Numeral)

/-- The zeros in front and the digits. -/
def digits : List Char :=
  List.replicate n.zeros '0' ++ Nat.toDigits 10 n.value

def text : String :=
  (if n.plus then "+" else "") ++ String.ofList n.digits

theorem isDigit_of_mem_digits {c : Char} (hc : c ∈ n.digits) : c.isDigit = true := by
  rcases List.mem_append.1 hc with hzero | hdigit
  · rw [List.eq_of_mem_replicate hzero]
    rfl
  · exact Nat.isDigit_of_mem_toDigits (by decide) (by decide) hdigit

theorem ofDigitChars_digits : Nat.ofDigitChars 10 n.digits 0 = n.value := by
  have hzeros : ∀ zeros, Nat.ofDigitChars 10 (List.replicate zeros '0') 0 = 0 := by
    intro zeros
    induction zeros with
    | zero => rfl
    | succ zeros ih => exact ih
  have hvalue := Nat.ofDigitChars_ten_toDigits (n := n.value)
  unfold Nat.ofDigitChars at hzeros hvalue ⊢
  rw [digits, List.foldl_append, hzeros, hvalue]

end Numeral

/-- The byte of a decimal digit. -/
theorem toUInt8_of_isDigit {c : Char} (hc : c.isDigit = true) :
    0x30 ≤ c.val.toUInt8 ∧ c.val.toUInt8 ≤ 0x39 ∧ c.val.toUInt8.toNat = c.toNat := by
  obtain ⟨hlow, hhigh⟩ : 48 ≤ c.toNat ∧ c.toNat ≤ 57 := Char.isDigit_iff_toNat.1 hc
  have hbyte : c.val.toUInt8.toNat = c.toNat := by
    rw [UInt32.toNat_toUInt8, Char.toNat_val]
    exact Nat.mod_eq_of_lt (by omega)
  rw [UInt8.le_iff_toNat_le, UInt8.le_iff_toNat_le, hbyte]
  exact ⟨hlow, hhigh, rfl⟩

theorem exists_cons_of_digits {cs : List Char} (hne : cs ≠ [])
    (hdigits : ∀ c ∈ cs, c.isDigit = true) :
    ∃ b rest, Text.utf8 (String.ofList cs) = b :: rest ∧ 0x30 ≤ b := by
  obtain ⟨c, rest, rfl⟩ := List.exists_cons_of_ne_nil hne
  rw [Text.utf8_ofList_of_digits hdigits]
  exact ⟨_, _, rfl, (toUInt8_of_isDigit (hdigits c List.mem_cons_self)).1⟩

/-- Decimal digits are read as the number that they write. -/
theorem decimalValue?_ofList {cs : List Char} (hne : cs ≠ [])
    (hdigits : ∀ c ∈ cs, c.isDigit = true) :
    decimalValue? (Text.utf8 (String.ofList cs)) = some (Nat.ofDigitChars 10 cs 0) := by
  have hfold : ∀ n, (cs.map fun c => c.val.toUInt8).foldlM
      (fun n d => if 0x30 ≤ d ∧ d ≤ 0x39 then some (n * 10 + (d.toNat - 0x30)) else none) n =
        some (Nat.ofDigitChars 10 cs n) := by
    clear hne
    induction cs with
    | nil => exact fun n => rfl
    | cons c rest ih =>
      intro n
      rw [List.forall_mem_cons] at hdigits
      rcases toUInt8_of_isDigit hdigits.1 with ⟨hlow, hhigh, hvalue⟩
      rw [List.map_cons, List.foldlM_cons, if_pos ⟨hlow, hhigh⟩, hvalue, Nat.mul_comm]
      exact ih hdigits.2 _
  rcases exists_cons_of_digits hne hdigits with ⟨b, rest, hb, -⟩
  rw [decimalValue?, hb, List.isEmpty_cons, if_neg Bool.false_ne_true, ← hb,
    Text.utf8_ofList_of_digits hdigits, hfold]

/-- A text is read as the number that its digits write, with a plus sign in front or without. -/
theorem readNumber_of_digits {value digits : Bytes} {n : Nat}
    (hvalue : value = 0x2B :: digits ∨ value = digits ∧ digits.head? ≠ some 0x2B)
    (htext : (Text.ofUtf8? value).isSome) (hdigits : decimalValue? digits = some n)
    (hn : n < numberLimit) : readNumber value = .ok n := by
  obtain ⟨t, ht⟩ := Option.isSome_iff_exists.1 htext
  unfold readNumber
  rcases hvalue with rfl | ⟨rfl, hplus⟩
  · simp [ht, hdigits, hn]
  · split
    · exact absurd rfl hplus
    · simp [ht, hdigits, hn]

namespace Numeral

variable (n : Numeral)

theorem digits_ne_nil : n.digits ≠ [] := by
  simp [digits]

/-- The text is that of its digits, or a plus sign and that of its digits, and the digits begin with
no sign. -/
theorem utf8_text :
    (Text.utf8 n.text = 0x2B :: Text.utf8 (String.ofList n.digits) ∨
      Text.utf8 n.text = Text.utf8 (String.ofList n.digits)) ∧
    ∃ b rest, Text.utf8 (String.ofList n.digits) = b :: rest ∧ b ≠ 0x2B ∧ b ≠ dash := by
  constructor
  · unfold text
    rw [Text.utf8_append]
    cases n.plus with
    | true => exact .inl rfl
    | false => exact .inr rfl
  · rcases exists_cons_of_digits n.digits_ne_nil fun c hc => n.isDigit_of_mem_digits hc with
      ⟨b, rest, hb, hlow⟩
    refine ⟨b, rest, hb, ?_, ?_⟩
    · rintro rfl
      exact absurd hlow (by decide)
    · rintro rfl
      exact absurd hlow (by decide)

/-- No number begins with a dash. -/
theorem head?_text_ne_dash : (Text.utf8 n.text).head? ≠ some dash := by
  rcases n.utf8_text with ⟨htext | htext, b, rest, hb, -, hdash⟩
  · rw [htext, List.head?_cons]
    decide
  · rw [htext, hb, List.head?_cons]
    exact fun h => hdash (Option.some.inj h)

end Numeral

/-- A number is read back from each of its spellings. -/
theorem readNumber_text (n : Numeral) : readNumber (Text.utf8 n.text) = .ok n.value := by
  have hdigits := decimalValue?_ofList n.digits_ne_nil fun c hc => n.isDigit_of_mem_digits hc
  rw [n.ofDigitChars_digits] at hdigits
  refine readNumber_of_digits ?_ (by rw [Text.ofUtf8?_utf8]; rfl) hdigits n.lt_limit
  rcases n.utf8_text with ⟨htext, b, rest, hb, hplus, -⟩
  refine htext.imp_right fun hsame => ⟨hsame, ?_⟩
  rw [hb, List.head?_cons]
  exact fun h => hplus (Option.some.inj h)

/-- The words for on and off. -/
def boolName (b : Bool) : String :=
  if b then "true" else "false"

theorem readBool_boolName (b : Bool) : readBool (Text.utf8 (boolName b)) = .ok b := by
  cases b <;> decide

theorem readVerbosity_verbosityName (v : Verbosity) :
    readVerbosity (Text.utf8 (verbosityName v)) = .ok v := by
  rcases v with _ | level
  · decide
  · cases level <;> decide

/-! ## Options with values -/

/-- One dash or two. -/
inductive Dashes where
  | one
  | two
deriving DecidableEq, Repr

def Dashes.text : Dashes → String
  | .one => "-"
  | .two => "--"

/-- The options that are on or off. -/
inductive Flag where
  | only
  | pretty
deriving DecidableEq, Repr

def Flag.setting : Flag → Setting
  | .only => .only
  | .pretty => .pretty

/-- The names of the option for the number of scopes. -/
inductive ScopesName where
  | short
  | long (dashes : Dashes)
deriving DecidableEq, Repr

def ScopesName.text : ScopesName → String
  | .short => "-n"
  | .long dashes => dashes.text ++ "scopes"

/-- An option with its value, in one of the spellings that it has. -/
inductive Phrase where
  /-- The number of scopes, behind `=` or in an argument of its own. -/
  | scopes (name : ScopesName) (joined : Bool) (number : Numeral)
  /-- A flag with a value behind `=`, or without one: then it is on. -/
  | flag (which : Flag) (dashes : Dashes) (value : Option Bool)
  /-- A verbosity, in an argument of its own. -/
  | logLevel (verbosity : Verbosity)

namespace Phrase

/-- The arguments that the phrase consists of. -/
def args : Phrase → List Bytes
  | .scopes name true number => [Text.utf8 (name.text ++ "=" ++ number.text)]
  | .scopes name false number => [Text.utf8 name.text, Text.utf8 number.text]
  | .flag which dashes (some value) =>
    [Text.utf8 (dashes.text ++ which.setting.name ++ "=" ++ boolName value)]
  | .flag which dashes none => [Text.utf8 (dashes.text ++ which.setting.name)]
  | .logLevel verbosity => [Text.utf8 "--log-level", Text.utf8 (verbosityName verbosity)]

/-- The option that the phrase is for. -/
def setting : Phrase → Setting
  | .scopes .. => .scopes
  | .flag which .. => which.setting
  | .logLevel _ => .logLevel

/-- The number of scopes that the phrase gives. -/
def scopes? : Phrase → Option Nat
  | .scopes _ _ number => some number.value
  | _ => none

/-- Whether the phrase says that a flag is on. -/
def flag? (which : Flag) : Phrase → Option Bool
  | .flag other _ value => if other = which then some (value.getD true) else none
  | _ => none

/-- The verbosity that the phrase gives. -/
def verbosity? : Phrase → Option Verbosity
  | .logLevel verbosity => some verbosity
  | _ => none

/-- The text of the value that the phrase gives. -/
def value : Phrase → String
  | .scopes _ _ number => number.text
  | .flag _ _ value => boolName (value.getD true)
  | .logLevel verbosity => verbosityName verbosity

/-- The phrase with two dashes in front of a long name. -/
def twoDashed : Phrase → Phrase
  | .scopes (.long _) joined number => .scopes (.long .two) joined number
  | .flag which _ value => .flag which .two value
  | phrase => phrase

/-! ## Their dashes -/

theorem utf8_dashes_append (name : String) :
    Text.utf8 (Dashes.one.text ++ name) = dash :: Text.utf8 name ∧
      Text.utf8 (Dashes.two.text ++ name) = dash :: dash :: Text.utf8 name := by
  constructor
  · rw [Text.utf8_append]
    rfl
  · rw [Text.utf8_append]
    rfl

theorem utf8_short_valued (value : String) :
    Text.utf8 (ScopesName.short.text ++ "=" ++ value) =
      dash :: 0x6E :: equalsSign :: Text.utf8 value := by
  rw [utf8_append_equalsSign]
  rfl

/-- A long option has two dashes once its dashes are made up. -/
theorem normalizeOne_long {text : String}
    (h : SingleDashed (Text.utf8 (Dashes.one.text ++ text))) (dashes : Dashes) :
    normalizeOne (Text.utf8 (dashes.text ++ text)) = Text.utf8 (Dashes.two.text ++ text) := by
  rcases utf8_dashes_append text with ⟨hone, htwo⟩
  cases dashes with
  | one => rw [normalizeOne_of_singleDashed h, hone, htwo]
  | two => rw [htwo, normalizeOne_of_not_singleDashed (not_singleDashed_dash _)]

section LongNames

variable {name : String} (hname : name ∈ ["only", "pretty", "scopes"]) (dashes : Dashes)
include hname

theorem normalizeOne_name :
    normalizeOne (Text.utf8 (dashes.text ++ name)) = Text.utf8 (Dashes.two.text ++ name) :=
  normalizeOne_long ⟨name, hname, .inl rfl⟩ dashes

theorem normalizeOne_valued (value : String) :
    normalizeOne (Text.utf8 (dashes.text ++ name ++ "=" ++ value)) =
      Text.utf8 (Dashes.two.text ++ name ++ "=" ++ value) := by
  have hassoc : ∀ text : String,
      text ++ name ++ "=" ++ value = text ++ (name ++ "=" ++ value) := by
    intro text
    simp only [String.append_assoc]
  rw [hassoc, hassoc]
  exact normalizeOne_long ⟨name, hname, .inr ⟨value, by rw [hassoc]; rfl⟩⟩ dashes

end LongNames

/-- What does not begin with a dash gains none. -/
theorem normalizeOne_of_head?_ne {arg : Bytes} (h : arg.head? ≠ some dash) :
    normalizeOne arg = arg := by
  refine normalizeOne_of_not_singleDashed fun hsingle => ?_
  rcases exists_cons_of_singleDashed hsingle with ⟨b, text, rfl, -, -⟩
  exact h rfl

/-- The short option gains no dash. -/
theorem normalizeOne_short (value : Bytes) :
    normalizeOne (dash :: 0x6E :: value) = dash :: 0x6E :: value := by
  refine normalizeOne_of_not_singleDashed fun hsingle => ?_
  rcases exists_cons_of_singleDashed hsingle with ⟨b, text, hletter, -, hunknown⟩
  obtain rfl : (0x6E : UInt8) = b := (List.cons.inj (List.cons.inj hletter).2).1
  exact hunknown (by decide)

theorem head?_verbosityName_ne_dash (v : Verbosity) :
    (Text.utf8 (verbosityName v)).head? ≠ some dash := by
  rcases v with _ | level
  · decide
  · cases level <;> decide

/-- Normalizing a phrase gives its long name two dashes. -/
theorem map_normalizeOne_args (phrase : Phrase) :
    phrase.args.map normalizeOne = phrase.twoDashed.args := by
  cases phrase with
  | scopes name joined number =>
    have hnumber := normalizeOne_of_head?_ne number.head?_text_ne_dash
    have hshort : normalizeOne (Text.utf8 ScopesName.short.text) = _ := normalizeOne_short []
    have hmem : "scopes" ∈ ["only", "pretty", "scopes"] := by decide
    cases name with
    | short =>
      cases joined with
      | true =>
        rw [args, List.map_singleton, utf8_short_valued, normalizeOne_short, ← utf8_short_valued]
        rfl
      | false =>
        rw [args, List.map_cons, List.map_singleton, hnumber, hshort]
        rfl
    | long dashes =>
      cases joined with
      | true =>
        rw [args, List.map_singleton, ScopesName.text, normalizeOne_valued hmem]
        rfl
      | false =>
        rw [args, List.map_cons, List.map_singleton, hnumber, ScopesName.text,
          normalizeOne_name hmem]
        rfl
  | flag which dashes value =>
    have hmem : which.setting.name ∈ ["only", "pretty", "scopes"] := by
      cases which <;> decide
    cases value with
    | none =>
      rw [args, List.map_singleton, normalizeOne_name hmem]
      rfl
    | some value =>
      rw [args, List.map_singleton, normalizeOne_valued hmem]
      rfl
  | logLevel verbosity =>
    have hname : normalizeOne (Text.utf8 "--log-level") = Text.utf8 "--log-level" :=
      normalizeOne_of_not_singleDashed (not_singleDashed_dash _)
    rw [args, List.map_cons, List.map_singleton, hname,
      normalizeOne_of_head?_ne (head?_verbosityName_ne_dash verbosity)]
    rfl

theorem ne_escape_of_head?_ne {arg : Bytes} (h : arg.head? ≠ some dash) : arg ≠ escape := by
  rintro rfl
  exact h rfl

theorem ne_escape_of_two_lt {text : String} (h : 2 < text.length) : Text.utf8 text ≠ escape := by
  intro heq
  have htext : text = "--" := Text.utf8_injective (t := "--") heq
  rw [htext] at h
  exact absurd h (by decide)

theorem utf8_short_append_ne_escape (tail : String) :
    Text.utf8 (ScopesName.short.text ++ tail) ≠ escape := by
  have hletter : Text.utf8 (ScopesName.short.text ++ tail) = dash :: 0x6E :: Text.utf8 tail := by
    rw [Text.utf8_append]
    rfl
  rw [hletter]
  simp [escape, dash]

/-- No argument of a phrase is `--`. -/
theorem ne_escape_of_mem_args {phrase : Phrase} {arg : Bytes} (harg : arg ∈ phrase.args) :
    arg ≠ escape := by
  have hlong : ∀ (dashes : Dashes) {name : String}, 2 ≤ name.length → ∀ tail : String,
      Text.utf8 (dashes.text ++ name ++ tail) ≠ escape := by
    intro dashes name hname tail
    have hdashes : 1 ≤ dashes.text.length := by cases dashes <;> decide
    refine ne_escape_of_two_lt ?_
    rw [String.length_append, String.length_append]
    omega
  cases phrase with
  | scopes name joined number =>
    have hname : ∀ tail, Text.utf8 (name.text ++ tail) ≠ escape := by
      cases name with
      | short => exact utf8_short_append_ne_escape
      | long dashes => exact hlong dashes (by decide)
    cases joined with
    | true =>
      rw [List.mem_singleton.1 harg, String.append_assoc]
      exact hname _
    | false =>
      rcases List.mem_cons.1 harg with rfl | harg
      · have hbare := hname ""
        rw [String.append_empty] at hbare
        exact hbare
      · rw [List.mem_singleton.1 harg]
        exact ne_escape_of_head?_ne number.head?_text_ne_dash
  | flag which dashes value =>
    have hname : 2 ≤ which.setting.name.length := by cases which <;> decide
    cases value with
    | none =>
      have hbare := hlong dashes hname ""
      rw [String.append_empty] at hbare
      rw [List.mem_singleton.1 harg]
      exact hbare
    | some value =>
      rw [List.mem_singleton.1 harg, String.append_assoc]
      exact hlong dashes hname _
  | logLevel verbosity =>
    rcases List.mem_cons.1 harg with rfl | harg
    · decide
    · rw [List.mem_singleton.1 harg]
      exact ne_escape_of_head?_ne (head?_verbosityName_ne_dash verbosity)

/-- Normalizing phrases gives their long names two dashes. -/
theorem normalize_args_append (phrases : List Phrase) (rest : List Bytes) :
    normalize (phrases.flatMap args ++ rest) =
      (phrases.map twoDashed).flatMap args ++ normalize rest := by
  have hargs : escape ∉ phrases.flatMap args := by
    intro hmem
    obtain ⟨phrase, -, harg⟩ := List.mem_flatMap.1 hmem
    exact ne_escape_of_mem_args harg rfl
  have hmap : (fun phrase : Phrase => phrase.args.map normalizeOne) =
      fun phrase => phrase.twoDashed.args :=
    funext map_normalizeOne_args
  rw [normalize_append hargs, List.map_flatMap, List.flatMap_map, hmap]

/-! ## What they give -/

/-- With two dashes a phrase is spelled by the conventions. -/
theorem gives (phrase : Phrase) :
    Gives phrase.twoDashed.args phrase.setting (Text.utf8 phrase.value) := by
  have hlong : ∀ name, Text.utf8 (Dashes.two.text ++ name) = dash :: dash :: Text.utf8 name :=
    fun name => (utf8_dashes_append name).2
  have hvalued : ∀ name value, Text.utf8 (Dashes.two.text ++ name ++ "=" ++ value) =
      dash :: dash :: (Text.utf8 name ++ equalsSign :: Text.utf8 value) := by
    intro name value
    rw [utf8_append_equalsSign, hlong, List.cons_append, List.cons_append]
  cases phrase with
  | scopes name joined number =>
    have hnumber := number.head?_text_ne_dash
    cases name with
    | short =>
      cases joined with
      | true =>
        simp only [twoDashed, args, utf8_short_valued]
        exact .short rfl _
      | false => exact .shortApart rfl rfl hnumber
    | long dashes =>
      cases joined with
      | true =>
        simp only [twoDashed, args, ScopesName.text, hvalued]
        exact .long .scopes _
      | false => exact .longApart (s := .scopes) rfl hnumber
  | flag which dashes value =>
    cases value with
    | none =>
      simp only [twoDashed, args, hlong]
      cases which <;> exact .implied rfl
    | some value =>
      simp only [twoDashed, args, hvalued]
      exact .long which.setting _
  | logLevel verbosity =>
    exact .longApart (s := .logLevel) rfl (head?_verbosityName_ne_dash verbosity)

/-- The value of a phrase is one that its option takes. -/
theorem takes (phrase : Phrase) : phrase.setting.Takes (Text.utf8 phrase.value) := by
  cases phrase with
  | scopes name joined number =>
    exact congrArg (Except.map fun _ => ()) (readNumber_text number)
  | flag which dashes value =>
    cases which
    all_goals exact congrArg (Except.map fun _ => ()) (readBool_boolName _)
  | logLevel verbosity =>
    exact congrArg (Except.map fun _ => ()) (readVerbosity_verbosityName verbosity)

end Phrase

end ScopeSearch.CommandLine
