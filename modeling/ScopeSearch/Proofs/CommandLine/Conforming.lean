import ScopeSearch.Proofs.CommandLine.Reading

/-!
# ScopeSearch.Proofs.CommandLine.Conforming — reading from left to right keeps the conventions

What is pending when an argument is read may as well have been looked at before, so an option that
is given in front is given before anything else happens. From there on the run with the option goes
the way of the run without it, until the option is given again.

* `Draft.run_of_settle` — looking early at what is pending makes no difference;
* `Draft.run_group` — an option and its value are read as one;
* `Follows` — the runs with an option in front and without it, side by side;
* `readArguments_understands`, `readArguments_rejects` — together;
* `wellGiven_of_readArguments`, `exists_parseStrictWith` — what the parser gives can be read.
-/

namespace ScopeSearch.CommandLine

namespace Draft

variable {d d' : Draft} {s : Setting} {value : Bytes} {arg : Bytes} {group : List Bytes}

/-! ## Looking early -/

theorem run_cons (d : Draft) (arg : Bytes) (rest : List Bytes) :
    d.run (arg :: rest) = d.read arg >>= fun d => d.run rest := by
  unfold run
  rw [List.foldlM_cons, bind_assoc]

theorem run_append (d : Draft) (before rest : List Bytes) :
    d.run (before ++ rest) = before.foldlM read d >>= fun d => d.run rest := by
  unfold run
  rw [List.foldlM_append, bind_assoc]

section Settled

variable (h : d.settle = .ok d')
include h

theorem settle_of_settled : d'.settle = d.settle :=
  (settle_of_nothing (settle_ok h).2).trans h.symm

theorem finish_of_settle : d.finish = d'.finish := by
  unfold finish
  rw [settle_of_settled h]

theorem readPattern_of_settle (arg : Bytes) : d.readPattern arg = d'.readPattern arg := by
  unfold readPattern
  rw [settle_of_settled h, hasPattern_of_settle h]

theorem readSetting_of_settle (s : Setting) (value : Option Bytes) :
    d.readSetting s value = d'.readSetting s value := by
  unfold readSetting
  rw [settle_of_settled h]

theorem readStop_of_settle (stop : Stop) : d.readStop stop = d'.readStop stop := by
  unfold readStop
  rw [settle_of_settled h]

/-- What comes of an argument is known from what is pending once it has been looked at. -/
theorem read_of_settle (harg : d.escaped = true ∨ arg ≠ escape) : d.read arg = d'.read arg := by
  unfold read
  rw [(settle_ok h).1.escaped]
  split
  · exact readPattern_of_settle h arg
  · rename_i hescaped
    split
    · exact absurd rfl (harg.resolve_left hescaped)
    · simp only [readLong, readSetting_of_settle h, readStop_of_settle h]
    · simp only [readShort, readSetting_of_settle h, readStop_of_settle h]
    · have hawaits : ∀ s, d.pending ≠ .awaiting s := by
        intro s hs
        rw [settle, hs] at h
        cases h
      rw [(settle_ok h).2]
      split
      · rename_i s hs
        exact absurd hs (hawaits s)
      · exact readPattern_of_settle h _

end Settled

/-- Looking early at what is pending makes no difference. -/
theorem run_of_settle (h : d.settle = .ok d') (args : List Bytes) : d.run args = d'.run args := by
  induction args generalizing d d' with
  | nil => exact finish_of_settle h
  | cons arg rest ih =>
    rw [run_cons, run_cons]
    by_cases hescape : d.escaped = false ∧ arg = escape
    · -- options end here, whether there is something pending or not
      obtain ⟨hd, rfl⟩ := hescape
      have hread : ∀ d : Draft, d.escaped = false →
          d.read escape = .ok { d with escaped := true } := by
        intro d hd
        unfold read
        rw [if_neg (by simp [hd])]
        rfl
      rw [hread d hd, hread d' ((settle_ok h).1.escaped.trans hd)]
      refine ih ?_
      rw [settle_with_escaped, h]
      rfl
    · rw [not_and_or, Bool.not_eq_false] at hescape
      rw [read_of_settle h hescape]

/-- An option and its value are read as one, whatever is pending. -/
theorem run_group (hd : d.escaped = false) (h : d.settle = .ok d') (hnew : ¬ d'.Has s)
    (hgives : Gives group s value) (htakes : s.Takes value) (rest : List Bytes) :
    d.run (group ++ rest) = ({ d' with given := d'.given ++ [(s, value)] } : Draft).run rest := by
  have hgiven : d'.give s value = .ok { d' with given := d'.given ++ [(s, value)] } := by
    rw [give_of_not_has hnew, show s.check value = .ok () from htakes]
  have hlooked := read_group_then_settle hd hgives
  rw [h] at hlooked
  obtain ⟨read, hread, hsettled⟩ := exists_of_bind_eq_ok (hlooked.trans hgiven)
  rw [run_append, hread]
  exact run_of_settle hsettled rest

end Draft

/-! ## An option in front -/

/-- What comes of a step with an option in front, next to what comes of it without: the same and the
option, as long as the option is not given again, and then that it is repeated. Where something else
is wrong without the option, nothing is said. -/
inductive Follows {α : Type} (Has : α → Prop) (add : α → α) :
    Except Stop α → Except Stop α → Prop where
  | kept {a : α} (h : ¬ Has a) : Follows Has add (.ok a) (.ok (add a))
  | again {a : α} (h : Has a) : Follows Has add (.ok a) (.error (.misuse .repeatedOption))
  | repeated :
      Follows Has add (.error (.misuse .repeatedOption)) (.error (.misuse .repeatedOption))
  | other {stop : Stop} (h : stop ≠ .misuse .repeatedOption) (answer : Except Stop α) :
      Follows Has add (.error stop) answer

namespace Follows

variable {α β : Type} {Has : α → Prop} {add : α → α} {Has' : β → Prop} {add' : β → β}
  {step step' : Except Stop α}

theorem error (stop : Stop) : Follows Has add (.error stop) (.error stop) := by
  by_cases h : stop = .misuse .repeatedOption
  · rw [h]
    exact repeated
  · exact other h _

/-- Once the option is given again, it is repeated. -/
theorem of_has (h : ∀ a, step = .ok a → Has a) :
    Follows Has add step (.error (.misuse .repeatedOption)) := by
  cases step with
  | ok a => exact again (h a rfl)
  | error stop =>
    by_cases hstop : stop = .misuse .repeatedOption
    · rw [hstop]
      exact repeated
    · exact other hstop _

/-- The steps may be taken one after the other. -/
theorem bind {next : α → Except Stop β} (h : Follows Has add step step')
    (hnew : ∀ a, ¬ Has a → Follows Has' add' (next a) (next (add a)))
    (hold : ∀ a b, Has a → next a = .ok b → Has' b) :
    Follows Has' add' (step >>= next) (step' >>= next) := by
  cases h with
  | kept h => exact hnew _ h
  | again h => exact of_has fun b hb => hold _ b h hb
  | repeated => exact repeated
  | other h => exact other h _

end Follows

namespace Draft

variable {d d' : Draft} {s : Setting} {value : Bytes} {arg : Bytes} {group : List Bytes}

/-- The draft with an option that was given before everything else. -/
def after (s : Setting) (value : Bytes) (d : Draft) : Draft :=
  { d with given := (s, value) :: d.given }

/-- The runs of drafts side by side. -/
abbrev FollowsGiven (s : Setting) (value : Bytes) :
    Except Stop Draft → Except Stop Draft → Prop :=
  Follows (Has · s) (after s value)

theorem followsGiven_ok (value : Bytes) (d : Draft) (hd : ¬ d.Has s) :
    FollowsGiven s value (.ok d) (.ok (d.after s value)) :=
  .kept hd

theorem Has.of_prefix (h : d.Has s) (hbegins : d.given <+: d'.given) : d'.Has s :=
  (hbegins.map Prod.fst).subset h

section Front

variable (value : Bytes) (hd : ¬ d.Has s)
include hd

theorem follows_give (t : Setting) (w : Bytes) :
    FollowsGiven s value (d.give t w) ((d.after s value).give t w) := by
  by_cases hsame : t = s
  · have hhas : (d.after s value).Has s := by simp [Has, after]
    rw [hsame, give_of_has hhas]
    refine .of_has fun d' hd' => ?_
    obtain ⟨-, -, rfl⟩ := give_ok hd'
    simp [Has]
  · have hiff : (d.after s value).Has t ↔ d.Has t := by simp [Has, after, hsame]
    by_cases hhas : d.Has t
    · rw [give_of_has hhas, give_of_has (hiff.2 hhas)]
      exact .repeated
    · rw [give_of_not_has hhas, give_of_not_has (mt hiff.1 hhas)]
      cases t.check w with
      | error e => exact .error _
      | ok =>
        refine .kept fun hgiven => hd ?_
        simpa [Has, Ne.symm hsame] using hgiven

theorem follows_settle : FollowsGiven s value d.settle (d.after s value).settle := by
  cases hpending : d.pending with
  | nothing =>
    rw [settle_of_nothing hpending, settle_of_nothing (by exact hpending)]
    exact .kept hd
  | awaiting t =>
    simp only [settle, after, hpending]
    exact .error _
  | valued t w =>
    simp only [settle, after, hpending]
    exact follows_give value (d := { d with pending := .nothing }) hd t w
  | pattern text =>
    simp only [settle, after, hpending]
    cases Text.ofUtf8? text with
    | none => exact .error _
    | some pattern =>
      exact followsGiven_ok value { d with pattern := some pattern, pending := .nothing } hd

theorem follows_readSetting (t : Setting) (w : Option Bytes) :
    FollowsGiven s value (d.readSetting t w) ((d.after s value).readSetting t w) := by
  refine (follows_settle value hd).bind (fun settled hsettled => ?_) fun settled d' hhas h => ?_
  · cases w.or t.impliedValue? with
    | none => exact followsGiven_ok value { settled with pending := .awaiting t } hsettled
    | some w => exact follows_give value hsettled t w
  · split at h
    · exact hhas.of_prefix (keeps_of_give h).given
    · cases h
      exact hhas

theorem follows_readStop (stop : Stop) :
    FollowsGiven s value (d.readStop stop) ((d.after s value).readStop stop) :=
  (follows_settle value hd).bind (fun _ _ => .error stop) fun _ _ _ h => by cases h

theorem follows_readPattern (arg : Bytes) :
    FollowsGiven s value (d.readPattern arg) ((d.after s value).readPattern arg) := by
  unfold readPattern
  show FollowsGiven s value _ (if d.hasPattern then _ else _)
  split
  · exact .error _
  · refine (follows_settle value hd).bind (fun settled hsettled => ?_) fun settled d' hhas h => ?_
    · exact followsGiven_ok value { settled with pending := .pattern arg } hsettled
    · cases h
      exact hhas

theorem follows_readLong (text : Bytes) :
    FollowsGiven s value (d.readLong text) ((d.after s value).readLong text) := by
  unfold readLong
  dsimp only
  split
  · exact follows_readSetting value hd _ _
  · split
    · exact .error _
    · exact .error _
    · exact follows_readStop value hd _

theorem follows_readShort (letter : UInt8) (text : Bytes) :
    FollowsGiven s value (d.readShort letter text) ((d.after s value).readShort letter text) := by
  unfold readShort
  split
  · split
    · exact follows_readSetting value hd _ _
    · exact follows_readSetting value hd _ _
  · split
    · exact follows_readStop value hd _
    · split
      · exact follows_readStop value hd _
      · exact .error _

theorem follows_read (arg : Bytes) :
    FollowsGiven s value (d.read arg) ((d.after s value).read arg) := by
  unfold read
  show FollowsGiven s value _ (if d.escaped then _ else _)
  split
  · exact follows_readPattern value hd arg
  · split
    · exact followsGiven_ok value { d with escaped := true } hd
    · exact follows_readLong value hd _
    · exact follows_readShort value hd _ _
    · have hpending : (d.after s value).pending = d.pending := rfl
      rw [hpending]
      split
      · rename_i t _
        exact followsGiven_ok value { d with pending := .valued t arg } hd
      · exact follows_readPattern value hd arg

end Front

theorem given_of_finish {m : Matches} (h : d.finish = .ok m) :
    d.given <+: m.given ∧ (WellGiven d.given → WellGiven m.given) := by
  obtain ⟨settled, hsettled, hfinish⟩ := exists_of_bind_eq_ok h
  have hkeeps := (settle_ok hsettled).1
  split at hfinish
  · cases hfinish
  · cases hfinish
    exact ⟨hkeeps.given, hkeeps.wellGiven⟩

/-- What has been given is among what is given in the end. -/
theorem given_of_run {args : List Bytes} {m : Matches} (h : d.run args = .ok m) :
    d.given <+: m.given ∧ (WellGiven d.given → WellGiven m.given) := by
  induction args generalizing d with
  | nil => exact given_of_finish h
  | cons arg rest ih =>
    rw [run_cons] at h
    obtain ⟨next, hnext, hrun⟩ := exists_of_bind_eq_ok h
    have hone := given_of_read hnext
    have hrest := ih hrun
    exact ⟨hone.1.trans hrest.1, fun hgiven => hrest.2 (hone.2 hgiven)⟩

theorem Has.of_run {args : List Bytes} {m : Matches} (h : d.Has s) (hrun : d.run args = .ok m) :
    s ∈ m.settings :=
  ((given_of_run hrun).1.map Prod.fst).subset h

/-- A run with an option in front goes the way of the run without it. -/
theorem follows_run (hd : ¬ d.Has s) (value : Bytes) (args : List Bytes) :
    Follows (fun m : Matches => s ∈ m.settings) (fun m => { m with given := (s, value) :: m.given })
      (d.run args) ((d.after s value).run args) := by
  induction args generalizing d with
  | nil =>
    refine (follows_settle value hd).bind (fun settled hsettled => ?_) fun settled m hhas h => ?_
    · cases hpattern : settled.pattern with
      | none =>
        simp only [after, hpattern]
        exact .error _
      | some pattern =>
        simp only [after, hpattern]
        exact @Follows.kept Matches _ _ ⟨pattern, settled.given⟩ hsettled
    · split at h
      · cases h
      · cases h
        exact hhas
  | cons arg rest ih =>
    rw [run_cons, run_cons]
    exact (follows_read value hd arg).bind (fun _ hnext => ih hnext) fun _ _ hhas hrun =>
      hhas.of_run hrun

/-! ## What is rejected -/

/-- An option that needs a value awaits it. -/
theorem read_of_awaits {name : Bytes} (hd : d.escaped = false) (hname : Awaits name)
    (h : d.read name = .ok d') : d'.escaped = false ∧ ∃ s, d'.pending = .awaiting s := by
  have hsetting : ∀ s : Setting, s.declaration.implied = none → d.readSetting s none = .ok d' →
      d'.escaped = false ∧ ∃ s, d'.pending = .awaiting s := by
    intro s himplied h
    refine ⟨(readSetting_ok h).escaped.trans hd, s, ?_⟩
    unfold readSetting Setting.impliedValue? at h
    rw [himplied] at h
    obtain ⟨settled, -, h⟩ := exists_of_bind_eq_ok h
    cases h
    rfl
  cases hname with
  | @long s himplied => exact hsetting s himplied ((read_name hd s).1.symm.trans h)
  | @short s letter hletter himplied =>
    exact hsetting s himplied ((read_letter hd hletter).1.symm.trans h)

/-- What stands behind one dash is no value. -/
theorem readShort_of_awaiting (h : d.pending = .awaiting s) (letter : UInt8) (text : Bytes) :
    d.readShort letter text ≠ .ok d' := by
  have hsettle : d.settle = .error (.misuse .invalidValue) := by
    unfold settle
    rw [h]
  have hsetting : ∀ (s : Setting) (value : Option Bytes), d.readSetting s value ≠ .ok d' := by
    intro s value hread
    unfold readSetting at hread
    rw [hsettle] at hread
    cases hread
  intro hread
  unfold readShort at hread
  split at hread
  · split at hread
    · exact hsetting _ _ hread
    · exact hsetting _ _ hread
  · split at hread
    · exact readStop_ne_ok _ _ _ hread
    · split at hread
      · exact readStop_ne_ok _ _ _ hread
      · cases hread

end Draft

/-! ## Together -/

open Draft in
/-- A command line with an option in front goes the way of the command line without it. -/
theorem follows_readArguments (program : Bytes) {s : Setting} {value : Bytes} {group : List Bytes}
    (hgives : Gives group s value) (htakes : s.Takes value) (rest : List Bytes) :
    Follows (fun m : Matches => s ∈ m.settings) (fun m => { m with given := (s, value) :: m.given })
      (readArguments (program :: rest)) (readArguments (program :: (group ++ rest))) := by
  have hnew : ¬ Has {} s := List.not_mem_nil
  show Follows _ _ (Draft.run {} rest) (Draft.run {} (group ++ rest))
  rw [run_group rfl rfl hnew hgives htakes rest]
  exact follows_run hnew value rest

open Draft in
theorem readArguments_understands : readArguments.Understands where
  escaped program pattern := by
    show ({ pending := .pattern (Text.utf8 pattern), escaped := true } : Draft).finish = _
    unfold finish settle
    simp only [Text.ofUtf8?_utf8]
    rfl
  positional program {pattern} hpattern := by
    show Draft.run {} [Text.utf8 pattern] = _
    have hread : Draft.read {} (Text.utf8 pattern) =
        .ok { pending := .pattern (Text.utf8 pattern) } := read_of_head?_ne rfl hpattern
    rw [run_cons, hread]
    show ({ pending := .pattern (Text.utf8 pattern) } : Draft).finish = _
    unfold finish settle
    simp only [Text.ofUtf8?_utf8]
    rfl
  intermixed program {pattern group s value} hpattern hgives htakes rest := by
    have hread : ∀ given, Draft.read { given } (Text.utf8 pattern) =
        .ok { given, pending := .pattern (Text.utf8 pattern) } :=
      fun given => read_of_head?_ne rfl hpattern
    have hsettle : ∀ given,
        ({ given, pending := .pattern (Text.utf8 pattern) } : Draft).settle =
          .ok { given, pattern := some pattern } := by
      intro given
      unfold settle
      simp only [Text.ofUtf8?_utf8]
    have hnew : ∀ pattern, ¬ Has ({ pattern } : Draft) s := fun pattern => List.not_mem_nil
    calc Draft.run {} (Text.utf8 pattern :: (group ++ rest))
        = Draft.run { pending := .pattern (Text.utf8 pattern) } (group ++ rest) := by
          rw [run_cons, hread]
          rfl
      _ = Draft.run { given := [(s, value)], pattern := some pattern } rest :=
          run_group rfl (hsettle []) (hnew _) hgives htakes rest
      _ = Draft.run { given := [(s, value)], pending := .pattern (Text.utf8 pattern) } rest :=
          (run_of_settle (hsettle _) rest).symm
      _ = Draft.run { given := [(s, value)] } (Text.utf8 pattern :: rest) := by
          rw [run_cons, hread]
          rfl
      _ = Draft.run {} (group ++ Text.utf8 pattern :: rest) :=
          (run_group rfl rfl (hnew none) hgives htakes _).symm
  given {program rest group m s value} hrest hgives htakes := by
    have hfollows := follows_readArguments program hgives htakes rest
    rw [hrest] at hfollows
    generalize readArguments (program :: (group ++ rest)) = answer at hfollows ⊢
    cases hfollows with
    | kept hfree => rw [if_neg hfree]
    | again hhas => rw [if_pos hhas]
  repeated {program rest group s value} hrest hgives htakes := by
    have hfollows := follows_readArguments program hgives htakes rest
    rw [hrest] at hfollows
    generalize readArguments (program :: (group ++ rest)) = answer at hfollows ⊢
    cases hfollows with
    | repeated => rfl
    | other hother => exact absurd rfl hother

open Draft in
theorem readArguments_rejects : readArguments.Rejects where
  program_name program program' args := rfl
  unknown_letter program {before letter} hescape hbefore hdash hletter text rest m := by
    intro (hrun : Draft.run {} (before ++ _) = .ok m)
    rw [run_append] at hrun
    obtain ⟨d, hd, hrun⟩ := exists_of_bind_eq_ok hrun
    rw [run_cons, read_of_ne_dash (foldlM_read_escaped rfl hescape hd) hdash] at hrun
    obtain ⟨d', hd', -⟩ := exists_of_bind_eq_ok hrun
    have hunknown : letter ≠ 0x68 ∧ letter ≠ 0x56 := by
      constructor
      · rintro rfl
        exact hletter List.mem_cons_self
      · rintro rfl
        exact hletter (List.mem_cons_of_mem _ List.mem_cons_self)
    simp [readShort, Setting.ofLetter?_eq_none hletter, hunknown] at hd'
  dashed_value program {before name b} hescape hname hb text rest m := by
    intro (hrun : Draft.run {} (before ++ _) = .ok m)
    rw [run_append] at hrun
    obtain ⟨d, hd, hrun⟩ := exists_of_bind_eq_ok hrun
    rw [run_cons] at hrun
    obtain ⟨d', hd', hrun⟩ := exists_of_bind_eq_ok hrun
    obtain ⟨hescaped, s, hpending⟩ :=
      read_of_awaits (foldlM_read_escaped rfl hescape hd) hname hd'
    rw [run_cons, read_of_ne_dash hescaped hb] at hrun
    obtain ⟨d'', hd'', -⟩ := exists_of_bind_eq_ok hrun
    exact readShort_of_awaiting hpending b text hd''

/-! ## What is given can be read -/

/-- No option is given twice, and each has a value that it takes. -/
theorem wellGiven_of_readArguments {args : List Bytes} {m : Matches}
    (h : readArguments args = .ok m) : Draft.WellGiven m.given := by
  have hnone : Draft.WellGiven ({} : Draft).given :=
    ⟨List.Pairwise.nil, fun _ hpair => absurd hpair List.not_mem_nil⟩
  exact (Draft.given_of_run h).2 hnone

/-- A value that an option takes can be read. -/
theorem Matches.exists_value? {α : Type} {m : Matches} {s : Setting}
    {read : Bytes → Except UsageError α} (hgiven : ∀ pair ∈ m.given, pair.1.Takes pair.2)
    (hread : ∀ value, s.Takes value → ∃ a, read value = .ok a) :
    ∃ a, m.value? s read = .ok a := by
  unfold value?
  cases hlookup : m.given.lookup s with
  | none => exact ⟨none, rfl⟩
  | some value =>
    obtain ⟨before, after, hmem, -⟩ := List.lookup_eq_some_iff.1 hlookup
    obtain ⟨a, ha⟩ := hread value (hgiven (s, value) (by simp [hmem]))
    exact ⟨some a, by simp [ha, Except.map]⟩

/-- Whenever the parser finds out what is given, a search is asked for. -/
theorem exists_parseStrictWith {args : List Bytes} {m : Matches}
    (h : readArguments args = .ok m) :
    ∃ invocation, parseStrictWith readArguments args = .ok invocation := by
  have hgiven := (wellGiven_of_readArguments h).2
  have hmap : ∀ {α : Type} {step : Except UsageError α}, step.map (fun _ => ()) = .ok () →
      ∃ a, step = .ok a := by
    intro α step hstep
    cases step with
    | ok a => exact ⟨a, rfl⟩
    | error e => cases hstep
  obtain ⟨scopes, hscopes⟩ := Matches.exists_value? (s := .scopes) hgiven fun _ => hmap
  obtain ⟨only, honly⟩ := Matches.exists_value? (s := .only) hgiven fun _ => hmap
  obtain ⟨pretty, hpretty⟩ := Matches.exists_value? (s := .pretty) hgiven fun _ => hmap
  obtain ⟨verbosity, hverbosity⟩ :=
    Matches.exists_value? (s := .logLevel) hgiven fun _ => hmap
  have hread : ∃ invocation, Invocation.ofMatches m = .ok invocation := by
    unfold Invocation.ofMatches
    rw [hscopes, honly, hpretty, hverbosity]
    exact ⟨_, rfl⟩
  obtain ⟨invocation, hread⟩ := hread
  refine ⟨invocation, ?_⟩
  unfold parseStrictWith
  rw [h]
  show (Invocation.ofMatches m).mapError _ = _
  rw [hread]
  rfl

end ScopeSearch.CommandLine
