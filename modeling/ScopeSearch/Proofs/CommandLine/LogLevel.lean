import Mathlib.Data.List.MinMax
import Mathlib.Data.List.TakeWhile
import ScopeSearch.CommandLine.Execution

/-!
# ScopeSearch.Proofs.CommandLine.LogLevel — a log level and the filter of the environment

A command line that gives a log level and an environment that gives a filter both say which records
are shown. The command line's level takes the place of what the environment asks for all records;
what it asks for some origins only stays in force beside it. This holds with any log library that
does what `LogLibrary.Documented` says.

* `inForce_shows` — a directive with a target decides on the records it is for, and the level on the
  rest;
* `search_eq` — the filter selects from the records of a run and changes nothing else;
* `deciding?_eq_some` — of the directives that apply, the one that names the most of the path
  decides;
* `standard_documented` — so the program's own log library is one of those;
* `log_level_overrides_untargeted` — together: without targets that name a part of the program the
  environment has no say, and otherwise it has its say on the parts it names.
-/

namespace ScopeSearch.CommandLine

open LogFilter

/-! ## Log libraries -/

/-- What is relied on of a log library. -/
structure LogLibrary.Documented (lib : LogLibrary) : Prop where
  /-- The directive with the longest target that applies decides. -/
  longest_target {f : LogFilter} {d : Directive} {e : Event} (hmessage : f.message = none)
    (hd : d ∈ f.directives) (htarget : d.target.isSome) (happlies : Applies d e.origin.path)
    (hlongest : ∀ other ∈ f.directives, Applies other e.origin.path →
      other = d ∨ Directive.reach other < Directive.reach d) :
    lib.shows f e = decide (d.verbosity.Admits e.level)
  /-- Where no target applies, the directive without one decides. -/
  no_target {f : LogFilter} {d : Directive} {e : Event} (hmessage : f.message = none)
    (hd : d ∈ f.directives) (htarget : d.target = none)
    (hothers : ∀ other ∈ f.directives, Applies other e.origin.path → other = d) :
    lib.shows f e = decide (d.verbosity.Admits e.level)
  /-- Setting a level sets the directive without target, and no other. -/
  set_directives (f : LogFilter) (v : Verbosity) (d : Directive) :
    d ∈ (lib.setLevel f v).directives ↔ d = ⟨none, v⟩ ∨ d ∈ f.directives ∧ d.target.isSome
  set_message (f : LogFilter) (v : Verbosity) : (lib.setLevel f v).message = f.message
  /-- A verbosity alone is for all records. -/
  read_level {name : List Char} {v : Verbosity} (hname : verbosity? name = some v) :
    lib.read (String.ofList name) = ⟨[⟨none, v⟩], none⟩
  /-- No two directives are for one target. -/
  read_targets (text : String) {d d' : Directive} (hd : d ∈ (lib.read text).directives)
    (hd' : d' ∈ (lib.read text).directives) (hsame : d.target = d'.target) : d = d'
  /-- A pattern for the messages stands behind a slash. -/
  read_message {text : String} (htext : '/' ∉ text.toList) : (lib.read text).message = none

namespace LogFilter

variable {lib : LogLibrary} {environment : Option String} {given : List Directive}
  {d d' n : Directive} {v : Verbosity} {name : List Char} {path : String}

/-! ## Targets -/

theorem reach_eq_zero_iff : Directive.reach d = 0 ↔ d.target = none ∨ d.target = some "" := by
  cases htarget : d.target <;> simp [Directive.reach, htarget]

theorem applies_of_reach_eq_zero (h : Directive.reach d = 0) : Applies d path := by
  intro target htarget
  rcases reach_eq_zero_iff.1 h with hnone | hempty
  · simp [hnone] at htarget
  · simp_all

/-- Two targets that begin one path and are of one length are the same. -/
theorem target_eq_of_reach_eq (h : Applies d path) (h' : Applies d' path) (hd : d.target.isSome)
    (hd' : d'.target.isSome) (hreach : Directive.reach d = Directive.reach d') :
    d.target = d'.target := by
  have hbegins : ∀ {t u : String}, t.toList <+: u.toList → t.utf8ByteSize = u.utf8ByteSize →
      t = u := by
    rintro t u ⟨rest, hrest⟩ hsize
    have happend : u = t ++ String.ofList rest := by
      rw [← String.toList_inj, String.toList_append, String.toList_ofList, hrest]
    have hrest : String.ofList rest = "" := by
      rw [happend, String.utf8ByteSize_append] at hsize
      exact String.utf8ByteSize_eq_zero_iff.1 (by omega)
    rw [happend, hrest, String.append_empty]
  obtain ⟨t, ht⟩ := Option.isSome_iff_exists.1 hd
  obtain ⟨u, hu⟩ := Option.isSome_iff_exists.1 hd'
  have hsize : t.utf8ByteSize = u.utf8ByteSize := by simpa [Directive.reach, ht, hu] using hreach
  have htpath : t.toList <+: path.toList := List.isPrefixOf_iff_prefix.1 (h t ht)
  have hupath : u.toList <+: path.toList := List.isPrefixOf_iff_prefix.1 (h' u hu)
  rw [ht, hu, Option.some_inj]
  rcases List.prefix_or_prefix_of_prefix htpath hupath with htu | hut
  · exact hbegins htu hsize
  · exact (hbegins hut hsize.symm).symm

/-! ## The filter in force -/

/-- What the environment asks for, which is to show warnings if it gives no filter. -/
def ofEnvironment (lib : LogLibrary) (environment : Option String) : LogFilter :=
  lib.read (environment.getD "warn")

/-- The verbosity for the records from an origin with this path, where the command line asks for
one for all: that of the directive with the longest target that applies, or else the one asked
for. -/
def verbosityAt (given : List Directive) (asked : Verbosity) (path : String) : Verbosity :=
  let aimed := given.filter fun d => d.target.isSome ∧ Applies d path
  ((aimed.argmax Directive.reach).getD ⟨none, asked⟩).verbosity

/-- The verbosity is that of a directive with a target that applies, of which none is longer, or
there is none and it is the one asked for. -/
theorem verbosityAt_cases (given : List Directive) (asked : Verbosity) (path : String) :
    (∃ d ∈ given, d.target.isSome ∧ Applies d path ∧
      (∀ other ∈ given, other.target.isSome → Applies other path →
        Directive.reach other ≤ Directive.reach d) ∧
      verbosityAt given asked path = d.verbosity) ∨
      (∀ d ∈ given, d.target.isSome → ¬ Applies d path) ∧
        verbosityAt given asked path = asked := by
  let aimed := given.filter fun d => d.target.isSome ∧ Applies d path
  have hmem : ∀ d, d ∈ aimed ↔ d ∈ given ∧ d.target.isSome ∧ Applies d path := by
    simp [aimed]
  have heq : verbosityAt given asked path =
      ((aimed.argmax Directive.reach).getD ⟨none, asked⟩).verbosity := rfl
  cases hlongest : aimed.argmax Directive.reach with
  | none =>
    have hnil : aimed = [] := List.argmax_eq_none.1 hlongest
    refine .inr ⟨fun d hd hsome happlies => ?_, by rw [heq, hlongest]; rfl⟩
    have hd := (hmem d).2 ⟨hd, hsome, happlies⟩
    simp [hnil] at hd
  | some d =>
    obtain ⟨hd, hsome, happlies⟩ := (hmem d).1 (List.argmax_mem hlongest)
    refine .inl ⟨d, hd, hsome, happlies, fun other hother hsome' happlies' => ?_, ?_⟩
    · exact List.le_of_mem_argmax ((hmem other).2 ⟨hother, hsome', happlies'⟩) hlongest
    · rw [heq, hlongest]
      rfl

/-- Directives with a target keep their say beside a verbosity that is asked for. -/
theorem inForce_shows (hlib : lib.Documented) (hslash : '/' ∉ (environment.getD "warn").toList)
    (hempty : ∀ d ∈ (ofEnvironment lib environment).directives, d.target ≠ some "")
    (v : Verbosity) (e : Event) :
    lib.shows (lib.inForce environment (some v)) e =
      decide ((verbosityAt (ofEnvironment lib environment).directives v e.origin.path).Admits
        e.level) := by
  have hmessage : (lib.inForce environment (some v)).message = none :=
    (hlib.set_message _ v).trans (hlib.read_message hslash)
  have hmem : ∀ d, d ∈ (lib.inForce environment (some v)).directives ↔ d = ⟨none, v⟩ ∨
      d ∈ (ofEnvironment lib environment).directives ∧ d.target.isSome :=
    hlib.set_directives _ v
  rcases verbosityAt_cases (ofEnvironment lib environment).directives v e.origin.path with
    ⟨d, hd, hsome, happlies, hlongest, hverbosity⟩ | ⟨hnone, hverbosity⟩
  · rw [hverbosity]
    refine hlib.longest_target hmessage ((hmem d).2 (.inr ⟨hd, hsome⟩)) hsome happlies
      fun other hother happlies' => ?_
    rcases (hmem other).1 hother with rfl | ⟨hgiven, hsome'⟩
    · -- the level names nothing, and the target is not empty
      refine .inr (Nat.pos_of_ne_zero fun hzero => ?_)
      rcases reach_eq_zero_iff.1 hzero with hnone | hnamed
      · simp [hnone] at hsome
      · exact hempty d hd hnamed
    · rcases Nat.lt_or_eq_of_le (hlongest other hgiven hsome' happlies') with hlt | heq
      · exact .inr hlt
      · exact .inl (hlib.read_targets _ hgiven hd
          (target_eq_of_reach_eq happlies' happlies hsome' hsome heq))
  · -- no target applies, and all that is left is the level
    rw [hverbosity]
    refine hlib.no_target (d := ⟨none, v⟩) hmessage ((hmem _).2 (.inl rfl)) rfl
      fun other hother happlies => ?_
    rcases (hmem other).1 hother with hlevel | ⟨hgiven, hsome⟩
    · exact hlevel
    · exact absurd happlies (hnone other hgiven hsome)

/-! ## What can be overridden -/

theorem toNat_mem_of_toUpper {c : Char} (h : 65 ≤ c.toUpper.toNat ∧ c.toUpper.toNat ≤ 90) :
    65 ≤ c.toNat ∧ c.toNat ≤ 122 := by
  unfold Char.toUpper at h
  split at h
  case isTrue hsmall =>
    have hbounds : 97 ≤ c.toNat ∧ c.toNat ≤ 122 := hsmall
    omega
  case isFalse => omega

/-- The name of a verbosity has no commas, slashes, equals signs and blanks: these all lie outside
the bounds. -/
theorem toNat_mem_of_verbosity? (h : verbosity? name = some v) :
    ∀ c ∈ name, 65 ≤ c.toNat ∧ c.toNat ≤ 122 := by
  intro c hc
  rw [verbosity?] at h
  have htext : v.text.toList = name.map Char.toUpper := by simpa using List.find?_some h
  have hupper : c.toUpper ∈ v.text.toList := htext ▸ List.mem_map_of_mem hc
  have hcapitals : ∀ u ∈ v.text.toList, 65 ≤ u.toNat ∧ u.toNat ≤ 90 := by
    rcases v with _ | _ | _ | _ | _ | _ <;> simp [Verbosity.text, Level.text]
  exact toNat_mem_of_toUpper (hcapitals _ hupper)

/-- The environment asks for nothing that is for a part of the program only. -/
structure Overridable (lib : LogLibrary) (environment : Option String) : Prop where
  /-- It asks for no pattern in the messages. -/
  no_pattern : '/' ∉ (environment.getD "warn").toList
  /-- The targets, if any, name no origin. -/
  no_origin : ∀ d ∈ (ofEnvironment lib environment).directives, d.target.isSome →
    ∀ origin : Origin, ¬ Applies d origin.path

/-- What is given to all records can be overridden. -/
theorem overridable_of_verbosity? (hlib : lib.Documented) (h : verbosity? name = some v) :
    Overridable lib (some (String.ofList name)) where
  no_pattern := by
    rw [Option.getD_some, String.toList_ofList]
    intro hmem
    exact absurd (toNat_mem_of_verbosity? h _ hmem).1 (by decide)
  no_origin := by
    rw [ofEnvironment, Option.getD_some, hlib.read_level h]
    simp

theorem overridable_none (hlib : lib.Documented) : Overridable lib none :=
  have hwarn :=
    overridable_of_verbosity? hlib (by decide : verbosity? "warn".toList = some (.downTo .warn))
  ⟨hwarn.no_pattern, hwarn.no_origin⟩

namespace Overridable

theorem verbosityAt_eq (h : Overridable lib environment) (v : Verbosity) (origin : Origin) :
    verbosityAt (ofEnvironment lib environment).directives v origin.path = v := by
  rcases verbosityAt_cases (ofEnvironment lib environment).directives v origin.path with
    ⟨d, hd, hsome, happlies, -, -⟩ | ⟨-, hverbosity⟩
  · exact absurd happlies (h.no_origin d hd hsome origin)
  · exact hverbosity

theorem shows_eq (h : Overridable lib environment) (hlib : lib.Documented) (v : Verbosity)
    (e : Event) :
    lib.shows (lib.inForce environment (some v)) e = decide (v.Admits e.level) := by
  rw [inForce_shows hlib h.no_pattern, h.verbosityAt_eq]
  -- an empty target would name every origin
  intro d hd hempty
  refine h.no_origin d hd (by simp [hempty]) .program (applies_of_reach_eq_zero ?_)
  exact reach_eq_zero_iff.2 (.inr hempty)

end Overridable

/-! ## Which directive decides -/

/-- Of two directives that apply, the one that names more of the path, and of equal ones the
later. -/
def prefer (best : Option Directive) (d : Directive) : Option Directive :=
  match best with
  | some b => if Directive.reach d < Directive.reach b then some b else some d
  | none => some d

theorem deciding?_eq (given : List Directive) (path : String) :
    deciding? given path = (given.filter fun d => Applies d path).foldl prefer none :=
  rfl

/-- The preferred directive is one of the two, and names no less than either. -/
theorem prefer_spec (b d : Directive) :
    ∃ chosen, prefer (some b) d = some chosen ∧ (chosen = b ∨ chosen = d) ∧
      Directive.reach b ≤ Directive.reach chosen ∧
        Directive.reach d ≤ Directive.reach chosen := by
  rw [prefer]
  split
  case isTrue hlt => exact ⟨b, rfl, .inl rfl, Nat.le_refl _, Nat.le_of_lt hlt⟩
  case isFalse hle => exact ⟨d, rfl, .inr rfl, Nat.le_of_not_lt hle, Nat.le_refl _⟩

theorem foldl_prefer_spec (l : List Directive) (b : Directive) :
    ∃ chosen, l.foldl prefer (some b) = some chosen ∧ chosen ∈ b :: l ∧
      ∀ d ∈ b :: l, Directive.reach d ≤ Directive.reach chosen := by
  induction l generalizing b with
  | nil => exact ⟨b, rfl, List.mem_singleton_self b, by simp⟩
  | cons d rest ih =>
    obtain ⟨first, hfirst, horigin, hb, hd⟩ := prefer_spec b d
    obtain ⟨chosen, hchosen, hmem, hle⟩ := ih first
    have hreach : Directive.reach first ≤ Directive.reach chosen := hle first List.mem_cons_self
    refine ⟨chosen, by rw [List.foldl_cons, hfirst, hchosen], ?_, ?_⟩
    · rcases List.mem_cons.1 hmem with rfl | hrest
      · rcases horigin with rfl | rfl <;> simp
      · exact List.mem_cons_of_mem _ (List.mem_cons_of_mem _ hrest)
    · intro other hother
      rcases List.mem_cons.1 hother with rfl | hother
      · exact Nat.le_trans hb hreach
      · rcases List.mem_cons.1 hother with rfl | hrest
        · exact Nat.le_trans hd hreach
        · exact hle other (List.mem_cons_of_mem _ hrest)

/-- Where one directive applies and names more than all others that do, it decides. -/
theorem deciding?_eq_some (hd : d ∈ given) (happlies : Applies d path)
    (hlongest : ∀ other ∈ given, Applies other path →
      other = d ∨ Directive.reach other < Directive.reach d) :
    deciding? given path = some d := by
  have hmem : d ∈ given.filter fun d => Applies d path :=
    List.mem_filter.2 ⟨hd, decide_eq_true happlies⟩
  rw [deciding?_eq]
  cases happly : given.filter fun d => Applies d path with
  | nil => simp [happly] at hmem
  | cons b rest =>
    obtain ⟨chosen, hchosen, hin, hle⟩ := foldl_prefer_spec rest b
    rw [← happly] at hin hle
    obtain ⟨hgiven, hchosen'⟩ := List.mem_filter.1 hin
    rcases hlongest chosen hgiven (of_decide_eq_true hchosen') with rfl | hlt
    · exact hchosen
    · exact absurd (hle d hmem) (Nat.not_le_of_lt hlt)

/-- The directive that decides says whether a record is shown. -/
theorem shows_of_deciding? {f : LogFilter} {e : Event} (hmessage : f.message = none)
    (hd : d ∈ f.directives) (hdecides : deciding? f.directives e.origin.path = some d) :
    f.shows e = decide (d.verbosity.Admits e.level) := by
  have hne : f.directives.isEmpty = false :=
    List.isEmpty_eq_false_iff.2 (List.ne_nil_of_mem hd)
  simp [shows, hne, hdecides, hmessage]

/-! ## Directives one after the other -/

theorem mem_insert : d ∈ insert given n ↔ d = n ∨ d ∈ given ∧ d.target ≠ n.target := by
  unfold insert
  split
  case isTrue hold =>
    obtain ⟨old, hmem, htarget⟩ := List.any_eq_true.1 hold
    rw [List.mem_map]
    constructor
    · rintro ⟨d', hd', rfl⟩
      by_cases h : d'.target = n.target <;> simp [h, hd']
    · rintro (rfl | ⟨hd, hne⟩)
      · exact ⟨old, hmem, if_pos (of_decide_eq_true htarget)⟩
      · exact ⟨d, hd, if_neg hne⟩
  case isFalse hnew =>
    simp only [List.any_eq_true, decide_eq_true_eq, not_exists, not_and] at hnew
    simp only [List.mem_append, List.mem_singleton]
    constructor
    · rintro (hd | rfl)
      · exact .inr ⟨hd, hnew d hd⟩
      · exact .inl rfl
    · exact fun h => h.symm.imp And.left id

/-- No two directives are for one target, as each takes the place of the one before. -/
theorem target_injective_insert (h : ∀ d ∈ given, ∀ d' ∈ given, d.target = d'.target → d = d')
    (n : Directive) :
    ∀ d ∈ insert given n, ∀ d' ∈ insert given n, d.target = d'.target → d = d' := by
  intro d hd d' hd' hsame
  rcases mem_insert.1 hd with rfl | ⟨hd, hother⟩
  · rcases mem_insert.1 hd' with rfl | ⟨-, hother'⟩
    · rfl
    · exact absurd hsame.symm hother'
  · rcases mem_insert.1 hd' with rfl | ⟨hd', -⟩
    · exact absurd hsame hother
    · exact h d hd d' hd' hsame

theorem target_injective_foldl_insert (l : List Directive)
    (h : ∀ d ∈ given, ∀ d' ∈ given, d.target = d'.target → d = d') :
    ∀ d ∈ l.foldl insert given, ∀ d' ∈ l.foldl insert given, d.target = d'.target → d = d' := by
  induction l generalizing given with
  | nil => exact h
  | cons n rest ih => exact ih (target_injective_insert h n)

theorem target_injective_read (text : String) :
    ∀ d ∈ (read text).directives, ∀ d' ∈ (read text).directives,
      d.target = d'.target → d = d' := by
  have hdirectives : ∀ text : List Char, ∀ d ∈ readDirectives text, ∀ d' ∈ readDirectives text,
      d.target = d'.target → d = d' :=
    fun text => target_injective_foldl_insert _ (by simp)
  unfold read
  split
  · exact hdirectives _
  · exact hdirectives _
  · simp

/-! ## Filters as they are written -/

variable {text : String}

theorem read_of_not_mem_slash (h : '/' ∉ text.toList) :
    read text = ⟨readDirectives text.toList, none⟩ := by
  rw [read, List.splitOn_eq_singleton h]

theorem isSpace_eq_false_of_mem {code : Nat} (h : 65 ≤ code ∧ code ≤ 122) :
    Text.isSpace code = false := by
  simp only [Text.isSpace, Text.spaceRanges, Text.asciiSpaceRanges, Text.inRanges,
    List.cons_append, List.nil_append]
  grind

/-- A text without blanks has none at its ends. -/
theorem trim_eq_self {piece : List Char} (h : ∀ c ∈ piece, Text.isSpace c.toNat = false) :
    trim piece = piece := by
  have hkeep : ∀ l : List Char, (∀ c ∈ l, c ∈ piece) →
      l.dropWhile (fun c => Text.isSpace c.toNat) = l := by
    intro l hl
    refine List.dropWhile_eq_self_iff.2 fun hlength => ?_
    simp [h _ (hl _ (List.getElem_mem hlength))]
  rw [trim, hkeep piece fun _ => id, hkeep piece.reverse fun _ => List.mem_reverse.1,
    List.reverse_reverse]

/-- The name of a verbosity, alone, asks for it for all records. -/
theorem read_of_verbosity? (h : verbosity? name = some v) :
    read (String.ofList name) = ⟨[⟨none, v⟩], none⟩ := by
  have hletters := toNat_mem_of_verbosity? h
  have hnot_mem : ∀ c : Char, c.toNat < 65 → c ∉ name :=
    fun c hc hmem => Nat.not_lt_of_le (hletters c hmem).1 hc
  have hne : name ≠ [] := by
    rintro rfl
    exact absurd h (by rcases v with _ | _ | _ | _ | _ | _ <;> decide)
  have htrim : trim name = name :=
    trim_eq_self fun c hc => isSpace_eq_false_of_mem (hletters c hc)
  have hdirective : readDirective? name = some ⟨none, v⟩ := by
    simp [readDirective?, List.splitOn_eq_singleton (hnot_mem '=' (by decide)), h]
  rw [read_of_not_mem_slash (by simpa using hnot_mem '/' (by decide)), String.toList_ofList,
    readDirectives, List.splitOn_eq_singleton (hnot_mem ',' (by decide))]
  simp [htrim, hne, hdirective, insert]

/-- The program's own log library is as documented. -/
theorem standard_documented : LogLibrary.standard.Documented where
  longest_target hmessage hd _ happlies hlongest :=
    shows_of_deciding? hmessage hd (deciding?_eq_some hd happlies hlongest)
  no_target {f d e} hmessage hd htarget hothers := by
    have happlies : Applies d e.origin.path :=
      applies_of_reach_eq_zero (reach_eq_zero_iff.2 (.inl htarget))
    exact shows_of_deciding? hmessage hd
      (deciding?_eq_some hd happlies fun other hother happly => .inl (hothers other hother happly))
  set_directives f v d := by
    show d ∈ insert f.directives ⟨none, v⟩ ↔ _
    rw [mem_insert, Option.isSome_iff_ne_none]
  set_message f v := rfl
  read_level hname := read_of_verbosity? hname
  read_targets text {d d'} hd hd' hsame := target_injective_read text _ hd _ hd' hsame
  read_message {text} htext := by
    show (read text).message = none
    rw [read_of_not_mem_slash htext]

end LogFilter

/-! ## The whole program -/

/-- The same execution, with only some of the records shown. -/
def Execution.showing (execution : Execution) (shown : Event → Bool) : Execution :=
  { execution with log := execution.log.filter shown }

/-- A filter selects from the records of a search, and changes nothing else. -/
theorem search_eq (compile : String → Except Pattern.Fault Matcher) (invocation : Invocation)
    (shown : Event → Bool) (input : Bytes) :
    search compile invocation shown input =
      (search compile invocation (fun _ => true) input).showing shown := by
  have hall : ∀ log : List Event, log.filter (fun _ => true) = log := fun log =>
    List.filter_eq_self.2 fun _ _ => rfl
  unfold search
  dsimp only
  split
  · simp only [hall, Execution.showing]
  · split <;> simp only [hall, Execution.showing]

section LogLevel

variable {libs : Libraries} {args : List Bytes} {invocation : Invocation} {v : Verbosity}

theorem executeWith_of_asked (hargs : parseWith libs.parser args = .ok invocation)
    (hlevel : invocation.verbosity = some v) (input : Bytes) (environment : Option String) :
    executeWith libs args input environment =
      (search libs.compile invocation (fun _ => true) input).showing
        (libs.log.shows (libs.log.inForce environment (some v))) := by
  rw [← search_eq, executeWith, hargs]
  simp only [hlevel]

/-- A log level has the last word on all records except those from origins that a target in the
environment names, whatever the parser, the pattern compiler and the log library, as long as the
library is as documented. The same run with the level for everything gives what there is to see: the
level and the environment select from its records and leave its output, its code and its failure as
they are. -/
theorem log_level_overrides_untargeted (hlog : libs.log.Documented)
    (hargs : parseWith libs.parser args = .ok invocation) (hlevel : invocation.verbosity = some v)
    (input : Bytes) :
    let whole := search libs.compile invocation (fun _ => true) input
    (∀ traced,
      parseWith libs.parser traced = .ok { invocation with verbosity := some (.downTo .trace) } →
        executeWith libs traced input none = whole) ∧
      (∀ environment, ∃ shown, executeWith libs args input environment = whole.showing shown) ∧
      (∀ environment : Option String,
        let given := (ofEnvironment libs.log environment).directives
        '/' ∉ (environment.getD "warn").toList → (∀ d ∈ given, d.target ≠ some "") →
        executeWith libs args input environment =
          whole.showing fun e => (verbosityAt given v e.origin.path).Admits e.level) ∧
      (∀ environment, Overridable libs.log environment →
        executeWith libs args input environment = whole.showing fun e => v.Admits e.level) ∧
      ∀ environment environment', Overridable libs.log environment →
        Overridable libs.log environment' →
        executeWith libs args input environment = executeWith libs args input environment' := by
  intro whole
  have hexecute := executeWith_of_asked hargs hlevel input
  have hoverridden : ∀ environment, Overridable libs.log environment →
      executeWith libs args input environment = whole.showing fun e => v.Admits e.level :=
    fun environment h =>
      (hexecute environment).trans (congrArg whole.showing (funext (h.shows_eq hlog v)))
  refine ⟨?traced, ?selects, ?targeted, hoverridden, ?same⟩
  case traced =>
    intro traced htraced
    have hall : libs.log.shows (libs.log.inForce none (some (.downTo .trace))) = fun _ => true := by
      funext e
      rw [(overridable_none hlog).shows_eq hlog, decide_eq_true_eq]
      cases e.level <;> decide
    rw [executeWith, htraced]
    simp only [hall]
    rfl
  case selects => exact fun environment => ⟨_, hexecute environment⟩
  case targeted =>
    intro environment given hslash hempty
    rw [hexecute, funext (inForce_shows hlog hslash hempty v)]
  case same =>
    intro environment environment' h h'
    rw [hoverridden environment h, hoverridden environment' h']

/-- A target in another program is no hindrance. -/
theorem log_level_overrides_untargeted_other_program :
    ∃ invocation,
      parse (["scopegrep", "--log-level", "debug", "x"].map Text.utf8) = .ok invocation ∧
      invocation.verbosity = some (.downTo .debug) ∧
      execute (["scopegrep", "--log-level", "debug", "x"].map Text.utf8) (Text.utf8 "(x)\n")
          (some "info,other=trace") =
        { exitCode := 0
          output := Text.utf8 "0:0 - 0:2\n"
          log := [.checkpoint 0 1, .runFinished 1 1 0] } := by
  have hparse : parse (["scopegrep", "--log-level", "debug", "x"].map Text.utf8) =
      .ok ⟨"x", {}, some (.downTo .debug)⟩ := rfl
  have hdirectives : (ofEnvironment .standard (some "info,other=trace")).directives =
      [⟨none, .downTo .info⟩, ⟨some "other", .downTo .trace⟩] := by decide
  have hother : Overridable .standard (some "info,other=trace") := by
    refine ⟨by decide, ?_⟩
    rw [hdirectives]
    simp only [List.forall_mem_cons]
    refine ⟨by simp, fun _ origin => ?_, by simp⟩
    cases origin <;> decide
  have hsame := (@log_level_overrides_untargeted .standard _ _ _ standard_documented hparse rfl
    (Text.utf8 "(x)\n")).2.2.2.2 _ _ hother (overridable_none standard_documented)
  exact ⟨_, hparse, rfl, hsame.trans (by decide +kernel)⟩

/-- A target in the program keeps its say, whatever level is given. -/
theorem log_level_leaves_targeted :
    ¬ ∀ (args : List Bytes) (invocation : Invocation) (v : Verbosity) (input : Bytes)
        (environment environment' : Option String),
      parse args = .ok invocation → invocation.verbosity = some v →
      '/' ∉ (environment.getD "warn").toList → '/' ∉ (environment'.getD "warn").toList →
      (execute args input environment).log = (execute args input environment').log := by
  intro h
  have hlog := h (["scopegrep", "--log-level", "debug", "x"].map Text.utf8)
    ⟨"x", {}, some (.downTo .debug)⟩ (.downTo .debug) (Text.utf8 "(x)\n") (some "scopegrep=off")
    none rfl rfl (by decide) (by decide)
  revert hlog
  decide +kernel

end LogLevel

end ScopeSearch.CommandLine
