import ScopeSearch.Proofs.Forest.Commuting

/-!
# ScopeSearch.Proofs.Forest.Walk — marking round by round

Marking walks up from a scope: each round marks one scope, goes on to the scope around it and counts
one more, until as many are marked as were asked for or there is no scope further out. A `Walk` is
where this stands between two rounds, with a counter of 64 bits, and `Walk.Stops` says after how many
rounds it comes to an end, and why.

* `stacked_lineage` — the lineage of a scope is its way up, from each scope to the one around it;
* `Walk.round_of_cons` — a round marks the next scope on the way up;
* `Walk.stops_of_stacked` — so a walk makes as many rounds as it is to count or as there are scopes,
  and its counter has room for all of them;
* `Walk.Stops.unique` — it cannot come to another end;
* `marking_is_exact` — marking does this, and nothing else.
-/

namespace ScopeSearch

open Forest

variable {f : Forest} {id : Nat}

/-- Why a walk up comes to an end. -/
inductive Halt where
  /-- As many scopes are marked as were asked for. -/
  | counted
  /-- The outermost scope is marked. -/
  | outermost
  /-- An id names no scope. -/
  | unknown (e : UnknownScope)
  /-- The counter has no room for one more. -/
  | counterFull
deriving DecidableEq, Repr

/-- Where a walk up stands between two rounds. -/
structure Walk where
  forest : Forest
  /-- The scope to be marked next, unless the outermost one has been marked. -/
  current : Option ScopeId
  /-- How many scopes have been marked. -/
  visited : UInt64
deriving DecidableEq, Repr

namespace Walk

/-- No scope has been marked, and the given one is to be the first. -/
def start (f : Forest) (id : ScopeId) : Walk :=
  ⟨f, some id, 0⟩

/-- One round of a walk that is to mark `count` scopes, or why there is none. -/
def round (count : UInt64) (w : Walk) : Except Halt Walk :=
  if w.visited < count then
    match w.current with
    | none => .error .outermost
    | some id =>
      match w.forest.get id with
      | .error e => .error (.unknown e)
      | .ok s =>
        if w.visited.toNat + 1 < UInt64.size then
          .ok ⟨w.forest.modify id fun s => { s with matched := true }, s.parent, w.visited + 1⟩
        else .error .counterFull
  else .error .counted

/-- The walk makes so many rounds and then comes to an end there, for this reason. -/
inductive Stops (count : UInt64) : Walk → Nat → Walk → Halt → Prop
  | now {w : Walk} {halt : Halt} (hround : w.round count = .error halt) : Stops count w 0 w halt
  | later {w next final : Walk} {n : Nat} {halt : Halt} (hround : w.round count = .ok next)
      (hrest : Stops count next n final halt) : Stops count w (n + 1) final halt

end Walk

namespace Forest

/-! ## The way up -/

theorem head?_lineage (hf : f.ParentsOlder) (hid : id < f.size) :
    (f.lineage id).head? = some id := by
  rw [List.head?_eq_getElem?]
  exact getElem?_zero_lineage hf hid

/-- Each scope of a lineage stands directly in the next, and the last one in none. -/
theorem stacked_lineage (hf : f.ParentsOlder) (hid : id < f.size) :
    f.Stacked (f.lineage id) := by
  induction id using upward_induction hf with
  | root id hp =>
    rw [lineage_of_root hid hp]
    exact ⟨hid, hp, trivial⟩
  | child id p hp ih =>
    have hpsize : p < f.size := Nat.lt_trans (hf hp) hid
    rw [lineage_of_parent? hf hp]
    exact ⟨hid, hp.trans (head?_lineage hf hpsize).symm, ih hpsize⟩

/-- The innermost of nested scopes stands in the next one. -/
theorem Stacked.exists_head {outer : List ScopeId} (h : f.Stacked (id :: outer)) :
    ∃ s, f.find? id = some s ∧ s.parent = outer.head? := by
  obtain ⟨s, hs⟩ := exists_find? h.1
  exact ⟨s, hs, (parent?_of_find? hs).symm.trans h.2.1⟩

/-- A mark moves no scope. -/
theorem Stacked.modify_matched {stack : List ScopeId} (h : f.Stacked stack) (id : ScopeId) :
    (f.modify id fun s => { s with matched := true }).Stacked stack := by
  have hparent : (f.modify id fun s => { s with matched := true }).parent? = f.parent? :=
    parent?_modify f id fun _ => rfl
  refine h.congr fun a ha => ⟨?_, congrFun hparent a⟩
  rw [size_modify]
  exact ha

/-- Marking from a scope, or from none. -/
def markFrom (f : Forest) (n : Nat) (from? : Option ScopeId) : Forest :=
  from?.elim f fun id => (f.mark n id).1

theorem markFrom_zero (f : Forest) (from? : Option ScopeId) : f.markFrom 0 from? = f := by
  cases from? <;> rfl

/-- Marking a scope and then going on from the scope around it. -/
theorem markFrom_succ {s : Scope} (hs : f.find? id = some s) (n : Nat) :
    f.markFrom (n + 1) (some id) =
      (f.modify id fun s => { s with matched := true }).markFrom n s.parent := by
  show (f.mark (n + 1) id).1 = _
  cases hp : s.parent with
  | none => simp [mark, markFrom, hs, hp]
  | some p => simp [mark, markFrom, hs, hp]

end Forest

namespace Walk

variable {count : UInt64} {w final final' : Walk} {halt halt' : Halt} {n n' : Nat}
  {chain outer : List ScopeId}

/-! ## Rounds -/

/-- The counter has room for as many as are to be counted. -/
theorem toNat_succ_lt_size {visited : UInt64} (hvisited : visited < count) :
    visited.toNat + 1 < UInt64.size := by
  have hlt := UInt64.lt_iff_toNat_lt.1 hvisited
  have hsize : count.toNat < UInt64.size := count.toNat_lt_size
  omega

theorem toNat_succ {visited : UInt64} (hvisited : visited < count) :
    (visited + 1).toNat = visited.toNat + 1 := by
  rw [UInt64.toNat_add]
  exact Nat.mod_eq_of_lt (toNat_succ_lt_size hvisited)

/-- Where scopes are still to be marked and there is one, a round marks it and counts it. -/
theorem round_of_cons (hstack : f.Stacked (id :: outer)) {visited : UInt64}
    (hvisited : visited < count) :
    round count ⟨f, some id, visited⟩ =
      .ok ⟨f.modify id fun s => { s with matched := true }, outer.head?, visited + 1⟩ := by
  obtain ⟨s, hs, hparent⟩ := hstack.exists_head
  simp only [round, if_pos hvisited, get_eq_ok_iff.2 hs, if_pos (toNat_succ_lt_size hvisited),
    hparent]

/-- A walk up a stack of nested scopes marks as many of them as it is still to count, or all. -/
theorem stops_of_stacked {left : Nat} (hstack : f.Stacked chain) {visited : UInt64}
    (hleft : visited.toNat + left = count.toNat) :
    ∃ final, Stops count ⟨f, chain.head?, visited⟩ (min left chain.length) final
        (if left ≤ chain.length then .counted else .outermost) ∧
      final.forest = f.markFrom left chain.head? ∧
      final.current = chain[min left chain.length]? ∧
      final.visited.toNat = visited.toNat + min left chain.length := by
  -- each round leaves one scope less to be counted
  induction left generalizing f chain visited with
  | zero =>
    have hnot : ¬ visited < count := by
      rw [UInt64.lt_iff_toNat_lt]
      omega
    rw [Nat.zero_min, if_pos (Nat.zero_le _), markFrom_zero, ← List.head?_eq_getElem?]
    exact ⟨_, .now (by rw [round, if_neg hnot]), rfl, rfl, rfl⟩
  | succ left ih =>
    have hlt : visited < count := by
      rw [UInt64.lt_iff_toNat_lt]
      omega
    cases chain with
    | nil =>
      rw [List.length_nil, Nat.min_zero, if_neg (Nat.not_succ_le_zero left)]
      exact ⟨_, .now (by simp [round, hlt]), rfl, rfl, rfl⟩
    | cons id outer =>
      have hnext := round_of_cons hstack hlt
      have hcounter := toNat_succ hlt
      obtain ⟨s, hs, hparent⟩ := hstack.exists_head
      have hrest : (visited + 1).toNat + left = count.toNat := by omega
      rcases ih (hstack.2.2.modify_matched id) hrest with
        ⟨final, hstops, hforest, hcurrent, hvisited⟩
      rw [List.length_cons, Nat.succ_min_succ, List.getElem?_cons_succ, List.head?_cons,
        markFrom_succ hs, hparent]
      refine ⟨final, .later hnext ?_, hforest, hcurrent, by omega⟩
      simpa using hstops

/-- From an id that names no scope there is no round. -/
theorem stops_of_size_le (hid : f.size ≤ id) :
    Stops count (start f id) 0 (start f id)
      (if count = 0 then .counted else .unknown ⟨id, f.size⟩) := by
  have hget : f.get id = .error ⟨id, f.size⟩ := get_eq_error_iff.2 ⟨hid, rfl⟩
  refine .now ?_
  by_cases hcount : count = 0
  · rw [if_pos hcount, hcount]
    rfl
  · have hpos : (0 : UInt64) < count := UInt64.pos_iff_ne_zero.2 hcount
    simp only [round, start, if_pos hpos, if_neg hcount, hget]

theorem Stops.unique (h : Stops count w n final halt) (h' : Stops count w n' final' halt') :
    n' = n ∧ final' = final ∧ halt' = halt := by
  induction h generalizing n' with
  | now hround =>
    cases h' with
    | now hround' => exact ⟨rfl, rfl, Except.error.inj (hround'.symm.trans hround)⟩
    | later hround' _ =>
      rw [hround] at hround'
      cases hround'
  | later hround _ ih =>
    cases h' with
    | now hround' =>
      rw [hround] at hround'
      cases hround'
    | later hround' hrest' =>
      obtain rfl := Except.ok.inj (hround.symm.trans hround')
      rcases ih hrest' with ⟨rfl, hfinal, hhalt⟩
      exact ⟨rfl, hfinal, hhalt⟩

/-- A walk comes to one end only. -/
theorem Stops.iff (h : Stops count w n final halt) :
    Stops count w n' final' halt' ↔ n' = n ∧ final' = final ∧ halt' = halt := by
  constructor
  · exact h.unique
  · rintro ⟨rfl, rfl, rfl⟩
    exact h

end Walk

namespace Forest

open Walk

theorem visited_mark_eq_min (hf : f.ParentsOlder) (n : Nat) (id : Nat) :
    (f.mark n id).2 = min n (f.lineage id).length := by
  rw [visited_mark, ← take_lineage hf, List.length_take]

theorem markKnown_of_lt (n : Nat) (hid : id < f.size) : f.markKnown n id = .ok (f.mark n id) := by
  obtain ⟨s, hs⟩ := exists_find? hid
  unfold markKnown
  rw [get_eq_ok_iff.2 hs]
  split
  · rename_i hn
    rw [hn]
    rfl
  · rfl

theorem markKnown_of_size_le (n : Nat) (hid : f.size ≤ id) :
    f.markKnown n id = if n = 0 then .ok (f, 0) else .error ⟨id, f.size⟩ := by
  unfold markKnown
  rw [get_eq_error_iff.2 ⟨hid, rfl⟩]
  rfl

/-- Marking is exact. Whatever operations have led to a forest, and whatever number of scopes is to
be marked from one of its scopes: on the way up, whose ids grow smaller, the first scopes are marked,
so many as were asked for or all, and nothing else changes. The walk visits these in as many rounds,
and stops because it has counted enough or because there is no scope further out, but never because
its counter is full. From an id that names no scope it fails before it changes anything, unless no
scope is to be marked. -/
theorem marking_is_exact (operations : List Operation) (id : ScopeId) (count : UInt64) :
    let f := Forest.empty.performAll operations
    let c := count.toNat
    let chain := f.lineage id
    let n := min c chain.length
    let marked := (f.mark c id).1
    (id < f.size →
      (chain.head? = some id ∧ f.Stacked chain ∧
        chain.Pairwise fun inner outer : Nat => outer < inner) ∧
      f.markKnown c id = .ok (marked, n) ∧
      ((∀ a, marked.find? a = (f.find? a).map fun s =>
          { s with matched := s.matched || decide (a ∈ chain.take n) }) ∧
        marked.openStack = f.openStack ∧ marked.closed = f.closed) ∧
      ∃ final, final.forest = marked ∧ final.visited.toNat = n ∧
        ∀ rounds final' halt, Stops count (start f id) rounds final' halt ↔
          rounds = n ∧ final' = final ∧
            halt = if c ≤ chain.length then .counted else .outermost) ∧
    (f.size ≤ id →
      f.markKnown c id = (if count = 0 then .ok (f, 0) else .error ⟨id, f.size⟩) ∧
      ∀ rounds final halt, Stops count (start f id) rounds final halt ↔
        rounds = 0 ∧ final = start f id ∧
          halt = if count = 0 then .counted else .unknown ⟨id, f.size⟩) := by
  intro f c chain n marked
  have hf : f.WellFormed := wellFormed_performAll operations
  constructor
  · intro hid
    have hstack : f.Stacked chain := stacked_lineage hf.parentsOlder hid
    have hhead : chain.head? = some id := head?_lineage hf.parentsOlder hid
    have hvisited : (f.mark c id).2 = n := visited_mark_eq_min hf.parentsOlder c id
    have hway : f.wayUp c id = chain.take n := by
      rw [← take_lineage hf.parentsOlder, List.take_eq_take_min]
    have hleft : (0 : UInt64).toNat + c = count.toNat := Nat.zero_add c
    rcases stops_of_stacked hstack hleft with
      ⟨final, hstops, hforest, -, hcounter⟩
    rw [hhead] at hstops hforest
    refine ⟨⟨hhead, hstack, hstack.pairwise hf.parentsOlder⟩, ?_, ⟨fun a => ?_, ?_, ?_⟩,
      final, hforest, ?_, fun rounds final' halt => hstops.iff⟩
    · rw [markKnown_of_lt c hid, ← hvisited]
    · rw [← hway]
      exact find?_mark f c id a
    · exact openStack_mark f c id
    · exact closed_mark f c id
    · rw [hcounter]
      exact Nat.zero_add n
  · intro hid
    have hzero : c = (0 : UInt64).toNat ↔ count = 0 := UInt64.toNat_inj
    refine ⟨?_, fun rounds final halt => (stops_of_size_le hid).iff⟩
    rw [markKnown_of_size_le c hid]
    exact if_congr hzero rfl rfl

/-- After a flush, the brace in `(a{b` and the parenthesis around it are marked by a count that
is as large as it can be; the walk ends at the parenthesis, after two rounds. There is no third
scope, and marking from it fails for the same count. -/
theorem marking_is_exact_largest_count :
    let marker (delimiter : Delimiter) (column : Nat) : Marker := ⟨delimiter, ⟨0, column⟩⟩
    let operations : List Operation :=
      [.apply [marker ⟨.paren, .opener⟩ 0, marker ⟨.brace, .opener⟩ 2], .flushClosed]
    let f := Forest.empty.performAll operations
    let count : UInt64 := 18446744073709551615
    (1 < f.size ∧ f.size ≤ 2) ∧
      f.markKnown count.toNat 1 = .ok ((f.mark count.toNat 1).1, 2) ∧
      (∃ final, Stops count (start f 1) 2 final .outermost ∧
        final.forest = (f.mark count.toNat 1).1) ∧
      f.markKnown count.toNat 2 = .error ⟨2, 2⟩ := by
  intro marker operations f count
  have hinside : 1 < f.size := by decide
  have hbeyond : f.size ≤ 2 := by decide
  have hlineage : f.lineage 1 = [1, 0] := by decide
  rcases (marking_is_exact operations 1 count).1 hinside with
    ⟨-, hknown, -, final, hforest, -, hstops⟩
  have hunknown := ((marking_is_exact operations 2 count).2 hbeyond).1
  rw [hlineage] at hknown hstops
  refine ⟨⟨hinside, hbeyond⟩, hknown, ⟨final, (hstops 2 final .outermost).2 ?_, hforest⟩, hunknown⟩
  exact ⟨rfl, rfl, rfl⟩

end Forest

end ScopeSearch
