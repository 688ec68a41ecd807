import Mathlib.Data.List.TakeWhile
import ScopeSearch.CommandLine.Parser
import ScopeSearch.Proofs.CommandLine.Conventions

/-!
# ScopeSearch.Proofs.CommandLine.Reading — what one argument changes

An option and the pattern are looked at late, when the next option is read or the arguments end.
What has been read and what has been looked at are therefore told apart:

* `nameOf_append`, `valueOf?_append` — a long option is cut at the first `=`;
* `Draft.give_ok`, `Draft.settle_ok`, `Draft.read_ok` — nothing that has been given is taken back,
  what is given more is a new option with a value that it takes, and only `--` ends the options;
* `Draft.read_name`, `Draft.read_letter` — the spellings of an option;
* `Draft.read_group_then_settle` — an option is looked at with its value, whichever way it is
  spelled.
-/

namespace ScopeSearch.CommandLine

/-- If a step and the next one succeed together, both succeed. -/
theorem exists_of_bind_eq_ok {ε α β : Type} {step : Except ε α} {next : α → Except ε β} {b : β}
    (h : step >>= next = .ok b) : ∃ a, step = .ok a ∧ next a = .ok b := by
  cases step with
  | error e => cases h
  | ok a => exact ⟨a, rfl, h⟩

/-- What comes next need agree only after a step that succeeds. -/
theorem bind_congr_of_ok {ε α β : Type} {step : Except ε α} {next next' : α → Except ε β}
    (h : ∀ a, step = .ok a → next a = next' a) : step >>= next = step >>= next' := by
  cases step with
  | error e => rfl
  | ok a => exact h a rfl

/-! ## Names and values -/

section Values

variable {name : Bytes} (hname : equalsSign ∉ name)
include hname

theorem forall_mem_ne_equalsSign : ∀ b ∈ name, (b != equalsSign) = true :=
  fun _ hb => bne_iff_ne.2 fun h => hname (h ▸ hb)

theorem nameOf_append (value : Bytes) : nameOf (name ++ equalsSign :: value) = name := by
  rw [nameOf, List.takeWhile_append_of_pos (forall_mem_ne_equalsSign hname)]
  simp

theorem nameOf_of_not_mem : nameOf name = name :=
  List.takeWhile_eq_self_iff.2 (forall_mem_ne_equalsSign hname)

theorem valueOf?_append (value : Bytes) : valueOf? (name ++ equalsSign :: value) = some value := by
  rw [valueOf?, List.dropWhile_append_of_pos (forall_mem_ne_equalsSign hname)]
  simp

theorem valueOf?_of_not_mem : valueOf? name = none := by
  rw [valueOf?, List.dropWhile_eq_nil_iff.2 (forall_mem_ne_equalsSign hname)]

end Values

/-! ## Declarations -/

namespace Setting

variable (s : Setting) {letter : UInt8}

theorem equalsSign_not_mem_name : equalsSign ∉ Text.utf8 s.name := by
  cases s <;> decide

theorem utf8_name_ne_nil : Text.utf8 s.name ≠ [] := by
  cases s <;> decide

theorem ofName?_name : ofName? (Text.utf8 s.name) = some s := by
  cases s <;> decide

variable {s}

theorem ofLetter?_of_short (h : s.declaration.short = some letter) : ofLetter? letter = some s := by
  cases s <;> cases h
  rfl

/-- No option has the dash for its letter. -/
theorem ne_dash_of_short (h : s.declaration.short = some letter) : letter ≠ dash := by
  cases s <;> cases h
  decide

theorem ofLetter?_eq_none (h : letter ∉ knownLetters) : ofLetter? letter = none := by
  rw [ofLetter?, List.find?_eq_none]
  intro s hs hshort
  refine h (List.mem_cons_of_mem _ (List.mem_cons_of_mem _ (List.mem_filterMap.2 ⟨s, hs, ?_⟩)))
  exact of_decide_eq_true hshort

end Setting

namespace Draft

variable {d d' : Draft} {s : Setting} {arg value text : Bytes} {letter : UInt8}

/-! ## What is left as it is -/

/-- No option is given twice, and each has a value that it takes. -/
def WellGiven (given : List (Setting × Bytes)) : Prop :=
  (given.map Prod.fst).Nodup ∧ ∀ pair ∈ given, pair.1.Takes pair.2

/-- What has been given stays given, what has been given well is still, and options have ended if
they had. -/
structure Keeps (d d' : Draft) : Prop where
  given : d.given <+: d'.given
  wellGiven : WellGiven d.given → WellGiven d'.given
  escaped : d'.escaped = d.escaped

theorem Keeps.of_given_eq (hgiven : d'.given = d.given) (hescaped : d'.escaped = d.escaped) :
    d.Keeps d' :=
  ⟨hgiven ▸ List.prefix_refl _, fun h => hgiven ▸ h, hescaped⟩

theorem Keeps.trans {d'' : Draft} (h : d.Keeps d') (h' : d'.Keeps d'') : d.Keeps d'' :=
  ⟨h.given.trans h'.given, fun hgiven => h'.wellGiven (h.wellGiven hgiven),
    h'.escaped.trans h.escaped⟩

theorem give_of_has (h : d.Has s) (value : Bytes) :
    d.give s value = .error (.misuse .repeatedOption) :=
  if_pos h

theorem give_of_not_has (h : ¬ d.Has s) (value : Bytes) :
    d.give s value =
      match s.check value with
      | .ok () => .ok { d with given := d.given ++ [(s, value)] }
      | .error e => .error (.misuse e) :=
  if_neg h

/-- An option that is given a value has not had one, and nothing else changes. -/
theorem give_ok (h : d.give s value = .ok d') :
    ¬ d.Has s ∧ s.Takes value ∧ d' = { d with given := d.given ++ [(s, value)] } := by
  unfold give at h
  split at h
  · cases h
  · rename_i hnew
    cases htakes : s.check value with
    | error e => simp [htakes] at h
    | ok =>
      rw [htakes] at h
      cases h
      exact ⟨hnew, htakes, rfl⟩

theorem keeps_of_give (h : d.give s value = .ok d') : d.Keeps d' := by
  obtain ⟨hnew, htakes, rfl⟩ := give_ok h
  refine ⟨List.prefix_append _ _, fun ⟨hnodup, htaken⟩ => ⟨?_, fun pair hpair => ?_⟩, rfl⟩
  · rw [List.map_append, List.nodup_append]
    refine ⟨hnodup, List.pairwise_singleton _ s, fun t ht t' ht' hsame => ?_⟩
    obtain rfl : t' = s := List.mem_singleton.1 ht'
    exact hnew (hsame ▸ ht)
  · rcases List.mem_append.1 hpair with hold | hadded
    · exact htaken pair hold
    · rw [List.mem_singleton.1 hadded]
      exact htakes

/-- Once it has been looked at, nothing is pending. -/
theorem settle_ok (h : d.settle = .ok d') : d.Keeps d' ∧ d'.pending = .nothing := by
  unfold settle at h
  split at h
  · rename_i hpending
    cases h
    exact ⟨.of_given_eq rfl rfl, hpending⟩
  · cases h
  · have hlooked : d.Keeps { d with pending := .nothing } := .of_given_eq rfl rfl
    refine ⟨hlooked.trans (keeps_of_give h), ?_⟩
    obtain ⟨-, -, rfl⟩ := give_ok h
    rfl
  · split at h
    · cases h
      exact ⟨.of_given_eq rfl rfl, rfl⟩
    · cases h

/-- Looking at a pattern makes it no other. -/
theorem hasPattern_of_settle (h : d.settle = .ok d') : d'.hasPattern = d.hasPattern := by
  unfold settle at h
  split at h
  · cases h
    rfl
  · cases h
  · rename_i hpending
    obtain ⟨-, -, rfl⟩ := give_ok h
    simp [hasPattern, hpending]
  · rename_i hpending
    split at h
    · cases h
      simp [hasPattern, hpending]
    · cases h

theorem settle_of_nothing (h : d.pending = .nothing) : d.settle = .ok d := by
  unfold settle
  rw [h]

/-- Whether options have ended makes no difference to what is pending. -/
theorem settle_with_escaped (d : Draft) (escaped : Bool) :
    ({ d with escaped } : Draft).settle = d.settle >>= fun d => .ok { d with escaped } := by
  have hgive : ∀ (d : Draft) (s : Setting) (value : Bytes),
      ({ d with escaped } : Draft).give s value =
        d.give s value >>= fun d => .ok { d with escaped } := by
    intro d s value
    have hsame : ({ d with escaped } : Draft).Has s ↔ d.Has s := Iff.rfl
    by_cases hhas : d.Has s
    · rw [give_of_has hhas, give_of_has (hsame.2 hhas)]
      rfl
    · rw [give_of_not_has hhas, give_of_not_has (mt hsame.1 hhas)]
      cases s.check value <;> rfl
  obtain ⟨given, pattern, pending, old⟩ := d
  cases pending with
  | nothing => rfl
  | awaiting s => rfl
  | valued s value => exact hgive { given, pattern, escaped := old } s value
  | pattern text =>
    simp only [settle]
    cases Text.ofUtf8? text <;> rfl

/-- Looking again finds nothing. -/
theorem bind_settle_of_ok {step : Except Stop Draft}
    (h : ∀ d, step = .ok d → d.pending = .nothing) : step >>= settle = step := by
  cases step with
  | error stop => rfl
  | ok d => exact settle_of_nothing (h d rfl)

theorem readSetting_ok {value : Option Bytes} (h : d.readSetting s value = .ok d') :
    d.Keeps d' := by
  obtain ⟨settled, hsettled, h⟩ := exists_of_bind_eq_ok h
  refine (settle_ok hsettled).1.trans ?_
  split at h
  · exact keeps_of_give h
  · cases h
    exact .of_given_eq rfl rfl

theorem readStop_ne_ok (d : Draft) (stop : Stop) (d' : Draft) : d.readStop stop ≠ .ok d' := by
  intro h
  obtain ⟨-, -, h⟩ := exists_of_bind_eq_ok h
  cases h

theorem readLong_ok (h : d.readLong text = .ok d') : d.Keeps d' := by
  unfold readLong at h
  simp only at h
  split at h
  · exact readSetting_ok h
  · -- what is no option is no argument that can be read
    split at h
    · cases h
    · cases h
    · exact absurd h (readStop_ne_ok _ _ _)

theorem readShort_ok (h : d.readShort letter text = .ok d') : d.Keeps d' := by
  unfold readShort at h
  split at h
  · split at h
    · exact readSetting_ok h
    · exact readSetting_ok h
  · split at h
    · exact absurd h (readStop_ne_ok _ _ _)
    · split at h
      · exact absurd h (readStop_ne_ok _ _ _)
      · cases h

theorem readPattern_ok (h : d.readPattern arg = .ok d') : d.Keeps d' := by
  unfold readPattern at h
  split at h
  · cases h
  · obtain ⟨settled, hsettled, h⟩ := exists_of_bind_eq_ok h
    cases h
    exact (settle_ok hsettled).1.trans (.of_given_eq rfl rfl)

/-- Nothing but `--` ends the options, and it changes nothing else. -/
theorem read_ok (h : d.read arg = .ok d') :
    d.Keeps d' ∨ d.escaped = false ∧ arg = escape ∧ d' = { d with escaped := true } := by
  unfold read at h
  split at h
  · exact .inl (readPattern_ok h)
  · rename_i hescaped
    split at h
    · cases h
      exact .inr ⟨Bool.eq_false_iff.2 hescaped, rfl, rfl⟩
    · exact .inl (readLong_ok h)
    · exact .inl (readShort_ok h)
    · split at h
      · cases h
        exact .inl (.of_given_eq rfl rfl)
      · exact .inl (readPattern_ok h)

theorem given_of_read (h : d.read arg = .ok d') :
    d.given <+: d'.given ∧ (WellGiven d.given → WellGiven d'.given) := by
  rcases read_ok h with hkeeps | ⟨-, -, rfl⟩
  · exact ⟨hkeeps.given, hkeeps.wellGiven⟩
  · exact ⟨List.prefix_refl _, id⟩

/-- Arguments without `--` do not end the options. -/
theorem foldlM_read_escaped {args : List Bytes} (hd : d.escaped = false) (hargs : escape ∉ args)
    (h : args.foldlM read d = .ok d') : d'.escaped = false := by
  induction args generalizing d with
  | nil =>
    cases h
    exact hd
  | cons arg rest ih =>
    rw [List.mem_cons, not_or] at hargs
    rw [List.foldlM_cons] at h
    obtain ⟨next, hnext, h⟩ := exists_of_bind_eq_ok h
    rcases read_ok hnext with hkeeps | ⟨-, hescape, -⟩
    · exact ih (hkeeps.escaped.trans hd) hargs.2 h
    · exact absurd hescape.symm hargs.1

/-! ## The spellings of options -/

/-- What follows two dashes is an option if its name is the option's. -/
theorem read_long (hd : d.escaped = false) (htext : nameOf text = Text.utf8 s.name) :
    d.read (dash :: dash :: text) = d.readSetting s (valueOf? text) := by
  cases text with
  | nil => exact absurd htext.symm s.utf8_name_ne_nil
  | cons b text =>
    unfold read
    rw [if_neg (by simp [hd])]
    show d.readLong (b :: text) = _
    unfold readLong
    simp only [htext, s.ofName?_name]

/-- A long option is read by its name, whether a value stands behind it or not. -/
theorem read_name (hd : d.escaped = false) (s : Setting) :
    d.read (dash :: dash :: Text.utf8 s.name) = d.readSetting s none ∧
      ∀ value, d.read (dash :: dash :: (Text.utf8 s.name ++ equalsSign :: value)) =
        d.readSetting s (some value) := by
  have hname := s.equalsSign_not_mem_name
  refine ⟨?_, fun value => ?_⟩
  · rw [read_long hd (nameOf_of_not_mem hname), valueOf?_of_not_mem hname]
  · rw [read_long hd (nameOf_append hname value), valueOf?_append hname]

/-- What follows a single dash is a letter. -/
theorem read_of_ne_dash (hd : d.escaped = false) (hletter : letter ≠ dash) (text : Bytes) :
    d.read (dash :: letter :: text) = d.readShort letter text := by
  unfold read
  rw [if_neg (by simp [hd])]
  split
  · rename_i h
    exact absurd (List.cons.inj (List.cons.inj h).2).1 hletter
  · rename_i h
    exact absurd (List.cons.inj (List.cons.inj h).2).1 hletter
  · rename_i h
    cases h
    rfl
  · rename_i h
    exact absurd rfl (h letter text)

/-- An option is read by its letter, whether a value stands behind it or not. -/
theorem read_letter (hd : d.escaped = false) (hletter : s.declaration.short = some letter) :
    d.read [dash, letter] = d.readSetting s none ∧
      ∀ value, d.read (dash :: letter :: equalsSign :: value) = d.readSetting s (some value) := by
  have hread : ∀ text, d.read (dash :: letter :: text) = d.readShort letter text :=
    read_of_ne_dash hd (Setting.ne_dash_of_short hletter)
  refine ⟨?_, fun value => ?_⟩
  all_goals
    rw [hread]
    simp [readShort, Setting.ofLetter?_of_short hletter]

/-- What does not begin with a dash is a value that is awaited, or else the pattern. -/
theorem read_of_head?_ne (hd : d.escaped = false) (harg : arg.head? ≠ some dash) :
    d.read arg = match d.pending with
      | .awaiting s => .ok { d with pending := .valued s arg }
      | _ => d.readPattern arg := by
  unfold read
  rw [if_neg (by simp [hd])]
  split
  · exact absurd rfl harg
  · exact absurd rfl harg
  · exact absurd rfl harg
  · rfl

/-- An option that stands for no value takes it from the next argument. -/
theorem readSetting_then_read (hd : d.escaped = false) (h : s.declaration.implied = none)
    (hvalue : value.head? ≠ some dash) :
    (d.readSetting s none >>= fun d => d.read value) =
      d.settle >>= fun d => .ok { d with pending := .valued s value } := by
  have himplied : s.impliedValue? = none := by rw [Setting.impliedValue?, h, Option.map_none]
  unfold readSetting
  rw [himplied]
  cases hsettled : d.settle with
  | error stop => rfl
  | ok d' =>
    have hescaped := (settle_ok hsettled).1.escaped.trans hd
    exact read_of_head?_ne (d := { d' with pending := .awaiting s }) hescaped hvalue

/-! ## Looking at what has been read -/

/-- An option with its value is looked at when what is pending is looked at the next time, or has
been before. -/
theorem read_group {group : List Bytes} (hd : d.escaped = false) (h : Gives group s value) :
    group.foldlM read d = (d.settle >>= fun d => d.give s value) ∨
      group.foldlM read d = d.settle >>= fun d => .ok { d with pending := .valued s value } := by
  have hone : ∀ arg, [arg].foldlM read d = d.read arg := fun arg => bind_pure _
  have htwo : ∀ {name}, d.read name = d.readSetting s none → s.declaration.implied = none →
      value.head? ≠ some dash → [name, value].foldlM read d =
        d.settle >>= fun d => .ok { d with pending := .valued s value } := by
    intro name hname himplied hvalue
    calc [name, value].foldlM read d
        = d.read name >>= fun d => d.read value :=
          congrArg (d.read name >>= ·) (funext fun _ => bind_pure _)
      _ = d.readSetting s none >>= fun d => d.read value := by rw [hname]
      _ = d.settle >>= fun d => .ok { d with pending := .valued s value } :=
          readSetting_then_read hd himplied hvalue
  cases h with
  | long => exact .inl ((hone _).trans ((read_name hd s).2 value))
  | longApart himplied hvalue => exact .inr (htwo (read_name hd s).1 himplied hvalue)
  | short hletter => exact .inl ((hone _).trans ((read_letter hd hletter).2 value))
  | shortApart hletter himplied hvalue =>
    exact .inr (htwo (read_letter hd hletter).1 himplied hvalue)
  | implied himplied =>
    refine .inl ((hone _).trans ((read_name hd s).1.trans ?_))
    unfold readSetting Setting.impliedValue?
    rw [himplied]
    rfl

/-- Once all has been looked at, the option has been given its value. -/
theorem read_group_then_settle {group : List Bytes} (hd : d.escaped = false)
    (h : Gives group s value) :
    group.foldlM read d >>= settle = d.settle >>= fun d => d.give s value := by
  rcases read_group hd h with hread | hread
  all_goals
    rw [hread, bind_assoc]
    refine bind_congr_of_ok fun settled hsettled => ?_
    have hpending := (settle_ok hsettled).2
  · refine bind_settle_of_ok fun d' hgiven => ?_
    obtain ⟨-, -, rfl⟩ := give_ok hgiven
    exact hpending
  · have hsame : { settled with pending := .nothing } = settled := by rw [← hpending]
    exact congrArg (give · s value) hsame

end Draft

end ScopeSearch.CommandLine
