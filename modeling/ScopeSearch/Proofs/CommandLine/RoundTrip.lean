import ScopeSearch.Proofs.CommandLine.Phrases

/-!
# ScopeSearch.Proofs.CommandLine.RoundTrip — what is told is what is understood

A command line is told as phrases in any order and spelling, and a pattern among them or behind
`--`. `Invocation.told` is what it asks for.

* `ArgumentParser.Understands.in_front` — phrases are understood one by one, whatever stands behind
  them;
* `ArgumentParser.Understands.behind_pattern` — and so are those behind a pattern;
* `ofMatches_told` — the values given are the values asked for;
* `parse_told` — a command line is understood as it is told.
-/

namespace ScopeSearch.CommandLine

variable {parser : ArgumentParser} {phrases : List Phrase} {pattern : String}

/-! ## What is given -/

/-- The arguments of phrases, with two dashes in front of long names. -/
abbrev spelled (phrases : List Phrase) : List Bytes :=
  (phrases.map Phrase.twoDashed).flatMap Phrase.args

/-- A pattern and the values of phrases. -/
def Matches.told (phrases : List Phrase) (pattern : String) : Matches where
  pattern := pattern
  given := phrases.map fun phrase => (phrase.setting, Text.utf8 phrase.value)

/-- What phrases and a pattern give, unless two phrases are for one option. -/
def answerOf (phrases : List Phrase) (pattern : String) : Except Stop Matches :=
  if (phrases.map Phrase.setting).Nodup then .ok (Matches.told phrases pattern)
  else .error (.misuse .repeatedOption)

theorem answerOf_nil (pattern : String) : answerOf [] pattern = .ok ⟨pattern, []⟩ :=
  if_pos List.nodup_nil

theorem Matches.settings_told (phrases : List Phrase) (pattern : String) :
    (Matches.told phrases pattern).settings = phrases.map Phrase.setting := by
  simp [settings, told]

namespace ArgumentParser.Understands

variable (h : parser.Understands) {program : Bytes} {rest : List Bytes}
include h

/-- One more phrase is understood. -/
theorem step (phrase : Phrase) (hrest : parser (program :: rest) = answerOf phrases pattern) :
    parser (program :: (phrase.twoDashed.args ++ rest)) = answerOf (phrase :: phrases) pattern := by
  have hcons : ((phrase :: phrases).map Phrase.setting).Nodup ↔
      phrase.setting ∉ phrases.map Phrase.setting ∧ (phrases.map Phrase.setting).Nodup :=
    List.nodup_cons
  unfold answerOf at hrest ⊢
  by_cases hnodup : (phrases.map Phrase.setting).Nodup
  · rw [if_pos hnodup] at hrest
    rw [h.given hrest phrase.gives phrase.takes, Matches.settings_told]
    by_cases hmem : phrase.setting ∈ phrases.map Phrase.setting
    · rw [if_pos hmem, if_neg fun hall => (hcons.1 hall).1 hmem]
    · rw [if_neg hmem, if_pos (hcons.2 ⟨hmem, hnodup⟩)]
      rfl
  · rw [if_neg hnodup] at hrest
    rw [h.repeated hrest phrase.gives phrase.takes, if_neg fun hall => hnodup (hcons.1 hall).2]

/-- Phrases are understood one by one, whatever stands behind them. -/
theorem in_front (before : List Phrase)
    (hrest : parser (program :: rest) = answerOf phrases pattern) :
    parser (program :: (spelled before ++ rest)) = answerOf (before ++ phrases) pattern := by
  induction before with
  | nil => exact hrest
  | cons phrase before ih =>
    rw [spelled, List.map_cons, List.flatMap_cons, List.append_assoc]
    exact h.step phrase ih

/-- Phrases are understood behind a pattern that begins with no dash. -/
theorem behind_pattern (hpattern : (Text.utf8 pattern).head? ≠ some dash) (program : Bytes)
    (phrases : List Phrase) :
    parser (program :: Text.utf8 pattern :: spelled phrases) = answerOf phrases pattern := by
  induction phrases with
  | nil => exact (h.positional program hpattern).trans (answerOf_nil pattern).symm
  | cons phrase rest ih =>
    rw [spelled, List.map_cons, List.flatMap_cons,
      h.intermixed program hpattern phrase.gives phrase.takes]
    exact h.step phrase ih

end ArgumentParser.Understands

/-! ## What is asked for -/

/-- What phrases and a pattern ask for. -/
def Invocation.told (phrases : List Phrase) (pattern : String) : Invocation where
  pattern := pattern
  options :=
    { scopes := (phrases.findSome? Phrase.scopes?).getD 1
      only := (phrases.findSome? (Phrase.flag? .only)).getD false
      pretty := (phrases.findSome? (Phrase.flag? .pretty)).getD false }
  verbosity := phrases.findSome? Phrase.verbosity?

/-- An option has the value of the first phrase that is for it. -/
theorem Matches.value?_told {α : Type} {s : Setting} {read : Bytes → Except UsageError α}
    {given? : Phrase → Option α}
    (hsame : ∀ phrase : Phrase, phrase.setting = s →
      ∃ a, given? phrase = some a ∧ read (Text.utf8 phrase.value) = .ok a)
    (hother : ∀ phrase : Phrase, phrase.setting ≠ s → given? phrase = none) :
    (Matches.told phrases pattern).value? s read = .ok (phrases.findSome? given?) := by
  unfold value? told
  induction phrases with
  | nil => rfl
  | cons phrase rest ih =>
    rw [List.map_cons, List.lookup_cons, List.findSome?_cons]
    by_cases hs : phrase.setting = s
    · obtain ⟨a, ha, hread⟩ := hsame phrase hs
      simp [hs, ha, hread, Except.map]
    · rw [hother phrase hs, beq_eq_false_iff_ne.2 (Ne.symm hs)]
      exact ih

theorem Matches.value?_told_flag (which : Flag) :
    (Matches.told phrases pattern).value? which.setting readBool =
      .ok (phrases.findSome? (Phrase.flag? which)) := by
  have hinjective : ∀ other : Flag, other.setting = which.setting → other = which := by
    intro other
    cases other <;> cases which <;> decide
  refine value?_told (fun phrase hs => ?_) fun phrase hs => ?_
  · cases phrase with
    | scopes => cases which <;> cases hs
    | flag other dashes value =>
      exact ⟨value.getD true, if_pos (hinjective other hs), readBool_boolName _⟩
    | logLevel => cases which <;> cases hs
  · cases phrase with
    | scopes => rfl
    | flag other => exact if_neg fun hsame => hs (congrArg Flag.setting hsame)
    | logLevel => rfl

/-- The values that are given are the values that are asked for. -/
theorem ofMatches_told (phrases : List Phrase) (pattern : String) :
    Invocation.ofMatches (Matches.told phrases pattern) =
      .ok (Invocation.told phrases pattern) := by
  have hscopes : (Matches.told phrases pattern).value? .scopes readNumber =
      .ok (phrases.findSome? Phrase.scopes?) := by
    refine Matches.value?_told (fun phrase hs => ?_) fun phrase hs => ?_
    · cases phrase with
      | scopes name joined number => exact ⟨number.value, rfl, readNumber_text number⟩
      | flag which => cases which <;> cases hs
      | logLevel => cases hs
    · cases phrase with
      | scopes => exact absurd rfl hs
      | flag => rfl
      | logLevel => rfl
  have hverbosity : (Matches.told phrases pattern).value? .logLevel readVerbosity =
      .ok (phrases.findSome? Phrase.verbosity?) := by
    refine Matches.value?_told (fun phrase hs => ?_) fun phrase hs => ?_
    · cases phrase with
      | scopes => cases hs
      | flag which => cases which <;> cases hs
      | logLevel verbosity => exact ⟨verbosity, rfl, readVerbosity_verbosityName verbosity⟩
    · cases phrase with
      | scopes => rfl
      | flag => rfl
      | logLevel => exact absurd rfl hs
  have honly : (Matches.told phrases pattern).value? .only readBool = _ :=
    Matches.value?_told_flag .only
  have hpretty : (Matches.told phrases pattern).value? .pretty readBool = _ :=
    Matches.value?_told_flag .pretty
  unfold Invocation.ofMatches
  rw [hscopes, honly, hpretty, hverbosity]
  rfl

/-! ## Whole command lines -/

/-- A command line is understood as it is told, by any parser that understands options. Its phrases
are told in any order and spelling, and its pattern behind `--`, or anywhere among them if it begins
with no dash; if all options are different it asks for exactly the values that it gives, and for the
defaults otherwise. If one option is told twice, this is what is wrong with it. -/
theorem parse_told (hparser : parser.Understands) {program : Bytes} (hprogram : program ≠ escape)
    (phrases : List Phrase) (pattern : String) :
    let answer : Except Stop Invocation :=
      if (phrases.map Phrase.setting).Nodup then .ok (Invocation.told phrases pattern)
      else .error (.misuse .repeatedOption)
    parseWith parser (program :: (phrases.flatMap Phrase.args ++ [escape, Text.utf8 pattern])) =
        answer ∧
      ((∀ rest, pattern ≠ "-" ++ rest) → ∀ before after, phrases = before ++ after →
        parseWith parser (program :: (before.flatMap Phrase.args ++
          Text.utf8 pattern :: after.flatMap Phrase.args)) = answer) := by
  intro told
  have hparse : ∀ args, parser (normalizeOne program :: normalize args) =
      answerOf phrases pattern → parseWith parser (program :: args) = told := by
    intro args hargs
    rw [parseWith, parseStrictWith, normalize, if_neg hprogram, hargs]
    unfold answerOf
    split
    · rename_i hnodup
      have hasked := congrArg (Except.mapError Stop.misuse) (ofMatches_told phrases pattern)
      exact hasked.trans (if_pos hnodup).symm
    · rename_i hnodup
      exact (if_neg hnodup).symm
  refine ⟨hparse _ ?_, fun hdash before after hphrases => hparse _ ?_⟩
  · rw [Phrase.normalize_args_append, normalize_escape]
    have hbehind := hparser.escaped (normalizeOne program) pattern
    rw [← answerOf_nil] at hbehind
    have hall := hparser.in_front phrases hbehind
    rwa [List.append_nil] at hall
  · have hhead : (Text.utf8 pattern).head? ≠ some dash := by
      intro hhead
      obtain ⟨bytes, hbytes⟩ := List.head?_eq_some_iff.1 hhead
      obtain ⟨rest, hrest, -⟩ := Text.exists_eq_append_of_utf8 (s := "-") hbytes.symm
      exact hdash rest hrest
    have hafter : normalize (Text.utf8 pattern :: after.flatMap Phrase.args) =
        Text.utf8 pattern :: spelled after := by
      have hphrases := Phrase.normalize_args_append after []
      rw [List.append_nil] at hphrases
      rw [normalize, if_neg (Phrase.ne_escape_of_head?_ne hhead),
        Phrase.normalizeOne_of_head?_ne hhead, hphrases]
      exact congrArg _ (List.append_nil _)
    rw [Phrase.normalize_args_append, hafter, hphrases]
    exact hparser.in_front before (hparser.behind_pattern hhead _ after)

/-- Three options are told in mixed spellings, before a pattern that looks like one of them and
around one that does not; then one of them is told again. -/
theorem parse_told_mixed :
    let asked (pattern : String) : Invocation :=
      ⟨pattern, { scopes := 7, only := true, pretty := false }, some (.downTo .debug)⟩
    parse (["scopegrep", "-only", "-scopes", "+007", "--log-level", "debug", "--", "-only"].map
      Text.utf8) = .ok (asked "-only") ∧
    parse (["scopegrep", "-only", "fn", "-scopes", "+007", "--log-level", "debug"].map
      Text.utf8) = .ok (asked "fn") ∧
    parse (["scopegrep", "-only", "-n=7", "--only=false", "--", "fn"].map
      Text.utf8) = .error (.misuse .repeatedOption) := by
  have hprogram : Text.utf8 "scopegrep" ≠ escape := by decide
  have hdash : ∀ rest, "fn" ≠ "-" ++ rest := by
    intro rest h
    have hhead := congrArg (fun text => (Text.utf8 text).head?) h
    rw [utf8_dash_append, List.head?_cons] at hhead
    exact absurd hhead (by decide)
  have hbehind := (parse_told readArguments_understands hprogram [.flag .only .one none,
    .scopes (.long .one) false ⟨true, 2, 7, by decide⟩, .logLevel (.downTo .debug)] "-only").1
  have hbetween := (parse_told readArguments_understands hprogram [.flag .only .one none,
    .scopes (.long .one) false ⟨true, 2, 7, by decide⟩, .logLevel (.downTo .debug)] "fn").2 hdash
    [.flag .only .one none] _ rfl
  have htwice := (parse_told readArguments_understands hprogram [.flag .only .one none,
    .scopes .short true ⟨false, 0, 7, by decide⟩, .flag .only .two (some false)] "fn").1
  rw [if_pos (by decide)] at hbehind hbetween
  rw [if_neg (by decide)] at htwice
  refine ⟨.trans (congrArg parse ?_) hbehind, .trans (congrArg parse ?_) hbetween,
    .trans (congrArg parse ?_) htwice⟩
  all_goals decide

end ScopeSearch.CommandLine
