import Mathlib.Data.List.Forall2
import ScopeSearch.Proofs.CommandLine.Conforming

/-!
# ScopeSearch.Proofs.CommandLine.Normalization — making up dashes changes no meaning

Arguments are normalized without a look at what they are there for: an option's value may look like
an option. Nevertheless normalizing is safe:

* `isSingleDashed_iff` — what gains a dash is one of three names behind one dash, with a value
  perhaps;
* `normalize_append` — each argument is dealt with by itself, as far as the first `--`;
* `not_singleDashed_of_ok` — in what a parser accepts as it stands, no dash is missing;
* `normalize_is_conservative` — so the two spellings are one, and nothing else changes.
-/

namespace ScopeSearch.CommandLine

variable {arg arg' : Bytes} {args before before' rest : List Bytes} {parser : ArgumentParser}

/-! ## What gains a dash -/

/-- A long option behind a single dash, with or without a value. -/
def SingleDashed (arg : Bytes) : Prop :=
  ∃ name ∈ ["only", "pretty", "scopes"],
    arg = Text.utf8 ("-" ++ name) ∨ ∃ value, arg = Text.utf8 ("-" ++ name ++ "=" ++ value)

/-- A text is its name, or its name and a value behind `=`. -/
theorem eq_nameOf_or (text : Bytes) :
    text = nameOf text ∨ ∃ value, text = nameOf text ++ equalsSign :: value := by
  have hsplit : text = nameOf text ++ text.dropWhile (· != equalsSign) :=
    List.takeWhile_append_dropWhile.symm
  cases hrest : text.dropWhile (· != equalsSign) with
  | nil =>
    rw [hrest, List.append_nil] at hsplit
    exact .inl hsplit
  | cons b value =>
    have hb : b = equalsSign := by
      have hhead := List.head?_dropWhile_not (· != equalsSign) text
      rw [hrest] at hhead
      simpa using hhead
    rw [hrest, hb] at hsplit
    exact .inr ⟨value, hsplit⟩

theorem utf8_dash_append (text : String) : Text.utf8 ("-" ++ text) = dash :: Text.utf8 text := by
  rw [Text.utf8_append]
  rfl

theorem utf8_append_equalsSign (name value : String) :
    Text.utf8 (name ++ "=" ++ value) = Text.utf8 name ++ equalsSign :: Text.utf8 value := by
  rw [Text.utf8_append, Text.utf8_append, List.append_assoc]
  rfl

/-- An argument gains a dash just if it is one of the long options behind a single dash. -/
theorem isSingleDashed_iff : isSingleDashed arg = true ↔ SingleDashed arg := by
  constructor
  · intro h
    cases arg with
    | nil => cases h
    | cons b text =>
      simp only [isSingleDashed, Bool.and_eq_true, decide_eq_true_iff] at h
      rcases h with ⟨⟨⟨rfl, -⟩, hname⟩, htext⟩
      obtain ⟨t, ht⟩ := Option.isSome_iff_exists.1 htext
      obtain ⟨name, hmem, hname⟩ := List.mem_map.1 (List.contains_iff_mem.1 hname)
      refine ⟨name, hmem, ?_⟩
      rcases eq_nameOf_or text with hbare | ⟨value, hvalued⟩
      · rw [← hname] at hbare
        rw [utf8_dash_append, ← hbare]
        exact .inl rfl
      · -- the bytes of the value spell what is left of the whole text
        rw [← hname] at hvalued
        have hbytes : Text.utf8 ("-" ++ name ++ "=") ++ value = Text.utf8 t := by
          rw [Text.utf8_of_ofUtf8? ht, hvalued, Text.utf8_append, utf8_dash_append,
            List.append_assoc]
          rfl
        obtain ⟨u, hu, -⟩ := Text.exists_eq_append_of_utf8 hbytes
        refine .inr ⟨u, ?_⟩
        rw [← hu, Text.utf8_of_ofUtf8? ht]
  · rintro ⟨name, hmem, hspelled⟩
    have hplain : ∀ name ∈ ["only", "pretty", "scopes"], equalsSign ∉ Text.utf8 name ∧
        (Text.utf8 name).head? ≠ some dash ∧
          (Text.utf8 name).head?.getD equalsSign ≠ dash := by
      decide
    rcases hplain name hmem with ⟨hname, hone, hone'⟩
    have hknown : Text.utf8 name ∈ singleDashNames := List.mem_map_of_mem hmem
    rcases hspelled with rfl | ⟨value, rfl⟩
    · have htext := Text.ofUtf8?_utf8 ("-" ++ name)
      rw [utf8_dash_append] at htext ⊢
      simp [isSingleDashed, nameOf_of_not_mem hname, hknown, htext, hone]
    · have htext := Text.ofUtf8?_utf8 ("-" ++ name ++ "=" ++ value)
      rw [utf8_append_equalsSign, utf8_dash_append, List.cons_append] at htext ⊢
      simp [isSingleDashed, nameOf_append hname, hknown, htext, hone']

/-- The names that may stand behind a single dash begin with letters that no option has. -/
theorem head_of_mem_singleDashNames {b : UInt8} {text : Bytes}
    (h : singleDashNames.contains (nameOf (b :: text)) = true) : b ∉ knownLetters := by
  have hnames : ∀ name ∈ singleDashNames,
      name.head? = some 0x6F ∨ name.head? = some 0x70 ∨ name.head? = some 0x73 := by
    decide
  have hhead := hnames _ (List.contains_iff_mem.1 h)
  by_cases hb : b = equalsSign
  · rw [hb]
    decide
  · have hletter : b = 0x6F ∨ b = 0x70 ∨ b = 0x73 := by simpa [nameOf, hb] using hhead
    rcases hletter with rfl | rfl | rfl
    all_goals decide

/-- Behind two dashes nothing is missing. -/
theorem not_singleDashed_dash (arg : Bytes) : ¬ SingleDashed (dash :: dash :: arg) := by
  rw [← isSingleDashed_iff]
  simp [isSingleDashed]

/-- Behind a single dash stands a letter that no option has. -/
theorem exists_cons_of_singleDashed (h : SingleDashed arg) :
    ∃ b text, arg = dash :: b :: text ∧ b ≠ dash ∧ b ∉ knownLetters := by
  rw [← isSingleDashed_iff] at h
  cases arg with
  | nil => cases h
  | cons c rest =>
    simp only [isSingleDashed, Bool.and_eq_true, decide_eq_true_iff] at h
    rcases h with ⟨⟨⟨rfl, hone⟩, hname⟩, -⟩
    cases rest with
    | nil => exact absurd hname (by decide)
    | cons b text =>
      exact ⟨b, text, rfl, by simpa using hone, head_of_mem_singleDashNames hname⟩

/-! ## One argument -/

theorem normalizeOne_of_singleDashed (h : SingleDashed arg) : normalizeOne arg = dash :: arg := by
  rw [normalizeOne, if_pos (isSingleDashed_iff.2 h)]

theorem normalizeOne_of_not_singleDashed (h : ¬ SingleDashed arg) : normalizeOne arg = arg := by
  rw [normalizeOne, if_neg (mt isSingleDashed_iff.1 h)]

/-- A dash that has been made up is not made up again. -/
theorem normalizeOne_dash (h : SingleDashed arg) :
    normalizeOne (dash :: arg) = dash :: arg := by
  rcases exists_cons_of_singleDashed h with ⟨b, text, rfl, -, -⟩
  exact normalizeOne_of_not_singleDashed (not_singleDashed_dash _)

theorem normalizeOne_normalizeOne (arg : Bytes) :
    normalizeOne (normalizeOne arg) = normalizeOne arg := by
  by_cases h : SingleDashed arg
  · rw [normalizeOne_of_singleDashed h, normalizeOne_dash h]
  · rw [normalizeOne_of_not_singleDashed h, normalizeOne_of_not_singleDashed h]

/-- No argument becomes `--`, and `--` stays what it is. -/
theorem normalizeOne_eq_escape_iff : normalizeOne arg = escape ↔ arg = escape := by
  by_cases h : SingleDashed arg
  · rcases exists_cons_of_singleDashed h with ⟨b, text, rfl, hb, -⟩
    rw [normalizeOne_of_singleDashed h]
    simp [escape, hb]
  · rw [normalizeOne_of_not_singleDashed h]

/-- The two arguments are one, or one of them is a long option behind a single dash and the other
the same behind two. -/
inductive SameButDashes : Bytes → Bytes → Prop where
  | refl (arg : Bytes) : SameButDashes arg arg
  | oneTwo {arg : Bytes} (h : SingleDashed arg) : SameButDashes arg (dash :: arg)
  | twoOne {arg : Bytes} (h : SingleDashed arg) : SameButDashes (dash :: arg) arg

theorem SameButDashes.normalizeOne_eq (h : SameButDashes arg arg') :
    normalizeOne arg = normalizeOne arg' := by
  cases h with
  | refl => rfl
  | oneTwo h => rw [normalizeOne_of_singleDashed h, normalizeOne_dash h]
  | twoOne h => rw [normalizeOne_of_singleDashed h, normalizeOne_dash h]

/-! ## All arguments -/

/-- Before the first `--` each argument is dealt with by itself. -/
theorem normalize_append (hbefore : escape ∉ before) (rest : List Bytes) :
    normalize (before ++ rest) = before.map normalizeOne ++ normalize rest := by
  induction before with
  | nil => rfl
  | cons arg before ih =>
    rw [List.mem_cons, not_or] at hbefore
    rw [List.cons_append, normalize, if_neg (Ne.symm hbefore.1), ih hbefore.2]
    rfl

/-- From the first `--` on nothing changes. -/
theorem normalize_escape (rest : List Bytes) : normalize (escape :: rest) = escape :: rest := by
  rw [normalize, if_pos rfl]

theorem normalize_eq (args : List Bytes) :
    normalize args =
      (args.takeWhile (· ≠ escape)).map normalizeOne ++ args.dropWhile (· ≠ escape) := by
  induction args with
  | nil => rfl
  | cons arg rest ih =>
    by_cases harg : arg = escape
    · rw [harg, normalize_escape]
      simp
    · rw [normalize, if_neg harg, ih]
      simp [harg]

theorem length_normalize (args : List Bytes) : (normalize args).length = args.length := by
  have hsplit : (args.takeWhile (· ≠ escape)).length + (args.dropWhile (· ≠ escape)).length =
      args.length := by
    rw [← List.length_append, List.takeWhile_append_dropWhile]
  rw [normalize_eq, List.length_append, List.length_map, hsplit]

/-- Dashes that have been made up are not made up again. -/
theorem normalize_normalize (args : List Bytes) : normalize (normalize args) = normalize args := by
  induction args with
  | nil => rfl
  | cons arg rest ih =>
    by_cases harg : arg = escape
    · rw [harg, normalize_escape, normalize_escape]
    · have hone : normalizeOne arg ≠ escape := mt normalizeOne_eq_escape_iff.1 harg
      rw [normalize, if_neg harg, normalize, if_neg hone, ih, normalizeOne_normalizeOne]

theorem normalize_eq_of_sameButDashes (h : List.Forall₂ SameButDashes before before')
    (hbefore : escape ∉ before) (rest : List Bytes) :
    normalize (before ++ rest) = normalize (before' ++ rest) := by
  induction h with
  | nil => rfl
  | @cons arg arg' before before' harg _ ih =>
    rw [List.mem_cons, not_or] at hbefore
    have harg' : arg' ≠ escape := by
      rw [← normalizeOne_eq_escape_iff.ne, ← harg.normalizeOne_eq]
      exact normalizeOne_eq_escape_iff.not.2 (Ne.symm hbefore.1)
    rw [List.cons_append, List.cons_append, normalize, if_neg (Ne.symm hbefore.1), normalize,
      if_neg harg', harg.normalizeOne_eq, ih hbefore.2]

/-! ## Parsing normalized arguments -/

/-- In a command line that a parser accepts as it stands, no dash is missing: a letter that no
option has is rejected, and so it is as the value of an option. -/
theorem not_singleDashed_of_ok (hparser : parser.Rejects) {program : Bytes} {m : Matches}
    (hargs : parser (program :: args) = .ok m) :
    ∀ arg ∈ args.takeWhile (· ≠ escape), ¬ SingleDashed arg := by
  intro arg harg hsingle
  rcases exists_cons_of_singleDashed hsingle with ⟨b, text, rfl, hb, hunknown⟩
  obtain ⟨before, after, hsplit⟩ := List.append_of_mem harg
  have hescape : escape ∉ before := by
    intro hmem
    have htaken : escape ∈ args.takeWhile (· ≠ escape) := by
      rw [hsplit]
      exact List.mem_append_left _ hmem
    simpa using List.mem_takeWhile_imp htaken
  rw [← List.takeWhile_append_dropWhile (p := (· ≠ escape)) (l := args), hsplit,
    List.append_assoc, List.cons_append] at hargs
  by_cases hbefore : ∀ name ∈ before.getLast?, ¬ Awaits name
  · exact hparser.unknown_letter program hescape hbefore hb hunknown text _ m hargs
  · -- the argument stands where a value is awaited
    simp only [not_forall, not_not] at hbefore
    obtain ⟨name, hlast, hname⟩ := hbefore
    obtain ⟨init, rfl⟩ := List.getLast?_eq_some_iff.1 hlast
    rw [List.append_assoc] at hargs
    refine hparser.dashed_value program (fun hmem => ?_) hname hb text _ m hargs
    exact hescape (List.mem_append_left _ hmem)

/-- A command line that a parser accepts as it stands is accepted with its dashes made up, and gives
the same. -/
theorem parser_normalize (hparser : parser.Rejects) {m : Matches} (hargs : parser args = .ok m) :
    parser (normalize args) = .ok m := by
  cases args with
  | nil => exact hargs
  | cons program rest =>
    by_cases hprogram : program = escape
    · rw [hprogram] at hargs ⊢
      rw [normalize_escape]
      exact hargs
    · have hkept : (rest.takeWhile (· ≠ escape)).map normalizeOne =
          rest.takeWhile (· ≠ escape) := by
        refine (List.map_congr_left fun arg harg => ?_).trans (List.map_id _)
        exact normalizeOne_of_not_singleDashed (not_singleDashed_of_ok hparser hargs arg harg)
      have hsame : normalize rest = rest := by
        rw [normalize_eq, hkept, List.takeWhile_append_dropWhile]
      rw [normalize, if_neg hprogram, hsame, hparser.program_name _ program, hargs]

theorem parseWith_of_parseStrictWith (hparser : parser.Rejects) {invocation : Invocation}
    (hargs : parseStrictWith parser args = .ok invocation) :
    parseWith parser args = .ok invocation := by
  obtain ⟨m, hm, hinvocation⟩ := exists_of_bind_eq_ok hargs
  rw [parseWith, parseStrictWith, parser_normalize hparser hm]
  exact hinvocation

/-! ## What normalizing is -/

/-- Normalizing is conservative. It keeps the number of arguments, and everything from the first
`--` on; before that, an argument gains one dash if it is a long option behind a single one, and
else stays as it is. Done again it changes nothing. Arguments that differ in nothing but one or two
dashes of long options before the first `--` become the same, and so they ask for the same, whatever
the parser. And what asks for a search as it stands asks for the same one afterwards, if the parser
rejects what is no option where one may stand. -/
theorem normalize_is_conservative (args : List Bytes) :
    (normalize args).length = args.length ∧
    (∃ before, normalize args = before ++ args.dropWhile (· ≠ escape) ∧
      List.Forall₂ (fun arg arg' =>
          SingleDashed arg ∧ arg' = dash :: arg ∨ ¬ SingleDashed arg ∧ arg' = arg)
        (args.takeWhile (· ≠ escape)) before) ∧
    normalize (normalize args) = normalize args ∧
    (∀ before before' rest, args = before ++ rest → escape ∉ before →
      List.Forall₂ SameButDashes before before' →
        normalize args = normalize (before' ++ rest) ∧
          ∀ parser, parseWith parser args = parseWith parser (before' ++ rest)) ∧
    (∀ parser : ArgumentParser, parser.Rejects → ∀ invocation,
      parseStrictWith parser args = .ok invocation → parseWith parser args = .ok invocation) := by
  refine ⟨length_normalize args, ⟨_, normalize_eq args, ?_⟩, normalize_normalize args, ?_,
    fun parser hparser invocation => parseWith_of_parseStrictWith hparser⟩
  · rw [List.forall₂_map_right_iff, List.forall₂_same]
    intro arg _
    by_cases h : SingleDashed arg
    · exact .inl ⟨h, normalizeOne_of_singleDashed h⟩
    · exact .inr ⟨h, normalizeOne_of_not_singleDashed h⟩
  · rintro before before' rest rfl hbefore hsame
    have hnormal := normalize_eq_of_sameButDashes hsame hbefore rest
    exact ⟨hnormal, fun parser => congrArg (parseStrictWith parser) hnormal⟩

/-- A dash is missing in front of one option here and of another one there; where none is missing,
nothing changes. -/
theorem normalize_is_conservative_mixed :
    parse (["scopegrep", "-only", "--pretty=false", "--", "-only"].map Text.utf8) =
      parse (["scopegrep", "--only", "-pretty=false", "--", "-only"].map Text.utf8) ∧
    parse (["scopegrep", "--only", "-n=2", "--", "-only"].map Text.utf8) =
      .ok ⟨"-only", { scopes := 2, only := true, pretty := false }, none⟩ := by
  have hsame : List.Forall₂ SameButDashes (["scopegrep", "-only", "--pretty=false"].map Text.utf8)
      (["scopegrep", "--only", "-pretty=false"].map Text.utf8) :=
    .cons (.refl _) (.cons (.oneTwo (isSingleDashed_iff.1 (by decide)))
      (.cons (.twoOne (isSingleDashed_iff.1 (by decide))) .nil))
  constructor
  · exact ((normalize_is_conservative _).2.2.2.1 _ _ (["--", "-only"].map Text.utf8) rfl (by decide)
      hsame).2 readArguments
  · exact (normalize_is_conservative _).2.2.2.2 readArguments readArguments_rejects _ (by decide)

end ScopeSearch.CommandLine
