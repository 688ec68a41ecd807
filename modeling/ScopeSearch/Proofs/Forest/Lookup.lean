import ScopeSearch.Proofs.Forest.Consolidation

/-!
# ScopeSearch.Proofs.Forest.Lookup — no lookup fails

The operations of a forest look scopes up by the ids that its links and lists hold. In `Strict` each
of them is written out with every lookup that it makes, and fails with the first id that names no
scope; a climb fails as well if it does not come to an end.

* `wellFormed_performAll` — after any operations, in any order, a forest is well-formed;
* `Strict.apply_eq`, `Strict.innermostContaining?_eq`, `Strict.consolidate_eq`,
  `Strict.flushClosed_eq`, `Strict.openReports_eq` — in a well-formed forest these operations find
  every scope that they look up;
* `Strict.mark_eq` — marking fails just for an id from outside that names no scope.
-/

namespace ScopeSearch

/-- What can be done with a forest. -/
inductive Operation where
  | apply (markers : List Marker)
  | mark (count : Nat) (id : ScopeId)
  | innermostContaining (line : Nat) (span : Span)
  | consolidate
  | flushClosed
  | openReports
  | release
  | get (id : ScopeId)
deriving DecidableEq, Repr

namespace Forest

variable {f : Forest} {id : Nat}

/-- The forest after an operation. One that only looks, or that fails, leaves it as it is. -/
def perform (f : Forest) : Operation → Forest
  | .apply markers => f.apply markers
  | .mark count id => (f.mark count id).1
  | .flushClosed => f.flushClosed.2
  | .release => f.release
  | .innermostContaining .. | .consolidate | .openReports | .get _ => f

/-- The forest after operations, one after the other. -/
def performAll (f : Forest) (operations : List Operation) : Forest :=
  operations.foldl perform f

theorem WellFormed.perform (hf : f.WellFormed) (operation : Operation) :
    (f.perform operation).WellFormed := by
  cases operation with
  | apply markers => exact hf.apply markers
  | mark count id => exact hf.mark count id
  | innermostContaining line span => exact hf
  | consolidate => exact hf
  | flushClosed => exact hf.flushClosed
  | openReports => exact hf
  | release => exact hf.release
  | get id => exact hf

theorem WellFormed.performAll (hf : f.WellFormed) (operations : List Operation) :
    (f.performAll operations).WellFormed := by
  induction operations generalizing f with
  | nil => exact hf
  | cons operation rest ih => exact ih (hf.perform operation)

theorem wellFormed_performAll (operations : List Operation) :
    (Forest.empty.performAll operations).WellFormed :=
  wellFormed_empty.performAll operations

/-! ## Operations with their lookups -/

namespace Strict

/-- Reads a marker: an opener looks up the scope around the new one, a closer the innermost open
one. -/
def read (f : Forest) (m : Marker) : Except UnknownScope Forest :=
  if m.delimiter.isOpener then
    match f.openStack.head? with
    | none => .ok (f.openScope m)
    | some p => do
      let _ ← f.get p
      return f.openScope m
  else
    match f.openStack.head? with
    | none => .ok f
    | some top => do
      let s ← f.get top
      return if s.opener.delimiter.partner = m.delimiter then f.closeInnermost m else f

/-- Reads markers one after the other. -/
def apply (f : Forest) : List Marker → Except UnknownScope Forest
  | [] => .ok f
  | m :: rest => do
    let after ← read f m
    apply after rest

/-- The first of some scopes that contains the span; those after it are not looked up. -/
def firstContaining? (f : Forest) (line : Nat) (span : Span) :
    List ScopeId → Except UnknownScope (Option ScopeId)
  | [] => .ok none
  | id :: rest => do
    let s ← f.get id
    if s.Contains line span then return some id else firstContaining? f line span rest

def innermostContaining? (f : Forest) (line : Nat) (span : Span) :
    Except UnknownScope (Option ScopeId) :=
  firstContaining? f line span (f.closed.toList ++ f.openStack)

/-- Marks a scope and the scopes around it, at most `n` in all; each is looked up. -/
def mark (f : Forest) : Nat → ScopeId → Except UnknownScope (Forest × Nat)
  | 0, _ => .ok (f, 0)
  | n + 1, id => do
    let s ← f.get id
    let here := f.modify id fun s => { s with matched := true }
    match s.parent with
    | none => return (here, 1)
    | some p =>
      let (marked, visited) ← mark here n p
      return (marked, visited + 1)

/-- Goes up from a scope as long as the scope around it is marked, and fails if that takes more than
`steps` looks. -/
def climb (f : Forest) : Nat → ScopeId → Except UnknownScope ScopeId
  | 0, id => .error ⟨id, f.size⟩
  | steps + 1, id => do
    let s ← f.get id
    match s.parent with
    | none => return id
    | some p =>
      let around ← f.get p
      if around.matched then climb f steps p else return id

/-- Adds to `found` what each of some scopes is folded into, if it is marked and the result is
closed and new. -/
def collect (f : Forest) (found : List ScopeId) : List ScopeId → Except UnknownScope (List ScopeId)
  | [] => .ok found
  | id :: rest => do
    let s ← f.get id
    if s.matched then
      let top ← climb f f.size id
      let t ← f.get top
      if !t.isOpen && !found.contains top then collect f (found ++ [top]) rest
      else collect f found rest
    else collect f found rest

def consolidate (f : Forest) : Except UnknownScope (List ScopeId) :=
  collect f [] f.closed.toList

/-- The scopes of some ids. -/
def getAll (f : Forest) : List ScopeId → Except UnknownScope (List Scope)
  | [] => .ok []
  | id :: rest => do
    let s ← f.get id
    let scopes ← getAll f rest
    return s :: scopes

def flushClosed (f : Forest) : Except UnknownScope (List Report × Forest) := do
  let ids ← consolidate f
  let scopes ← getAll f ids
  return (scopes.map Scope.report, { f with closed := #[] })

def openReports (f : Forest) : Except UnknownScope (List Report) := do
  let scopes ← getAll f f.openIds
  return (scopes.filter Scope.matched).map Scope.report

/-! ## Every lookup finds a scope -/

/-- What comes after a lookup that has found its scope. -/
theorem ok_bind {α β : Type} (a : α) (next : α → Except UnknownScope β) :
    (Except.ok a >>= next) = next a := rfl

theorem exists_get (hid : id < f.size) : ∃ s, f.find? id = some s ∧ f.get id = .ok s := by
  obtain ⟨s, hs⟩ := exists_find? hid
  exact ⟨s, hs, get_eq_ok_iff.2 hs⟩

theorem read_eq (hf : f.WellFormed) (m : Marker) : read f m = .ok (f.read m).1 := by
  unfold read Forest.read
  split
  · cases hhead : f.openStack.head? with
    | none => rfl
    | some p =>
      obtain ⟨s, -, hget⟩ := exists_get (hf.lt_size_of_head? hhead)
      simp only [hget]
      rfl
  · cases hhead : f.openStack.head? with
    | none => simp [strayCause?, innermost?, hhead]
    | some top =>
      obtain ⟨s, hs, hget⟩ := exists_get (hf.lt_size_of_head? hhead)
      rw [strayCause?_of_head? hhead hs]
      simp only [hget, ok_bind]
      by_cases hpartner : s.opener.delimiter.partner = m.delimiter
      · rw [if_pos hpartner, if_pos hpartner]
        rfl
      · rw [if_neg hpartner, if_neg hpartner]
        rfl

theorem apply_eq (hf : f.WellFormed) (markers : List Marker) :
    apply f markers = .ok (f.apply markers) := by
  induction markers generalizing f with
  | nil => rfl
  | cons m rest ih =>
    unfold apply
    rw [read_eq hf m]
    exact ih (hf.read m)

theorem firstContaining?_eq (line : Nat) (span : Span) {ids : List ScopeId}
    (hids : ∀ id : Nat, id ∈ ids → id < f.size) :
    firstContaining? f line span ids = .ok (ids.find? (f.contains line span)) := by
  induction ids with
  | nil => rfl
  | cons id rest ih =>
    obtain ⟨s, hs, hget⟩ := exists_get (hids id List.mem_cons_self)
    have hrest := ih fun other hother => hids other (List.mem_cons_of_mem _ hother)
    unfold firstContaining?
    rw [hget, ok_bind, List.find?_cons]
    by_cases hcontains : s.Contains line span
    · have hbool : f.contains line span id = true := by simp [Forest.contains, hs, hcontains]
      rw [hbool, if_pos hcontains]
      rfl
    · have hbool : f.contains line span id = false := by simp [Forest.contains, hs, hcontains]
      rw [hbool, if_neg hcontains]
      exact hrest

theorem innermostContaining?_eq (hf : f.WellFormed) (line : Nat) (span : Span) :
    innermostContaining? f line span = .ok (f.innermostContaining? line span) := by
  refine firstContaining?_eq line span fun id hid => ?_
  rcases List.mem_append.1 hid with hid | hid
  · exact hf.lt_size_of_mem_closed hid
  · exact hf.lt_size_of_mem_openStack hid

/-- Marking from a scope that is there finds every scope on its way up. -/
theorem mark_eq_of_lt (hf : f.ParentsOlder) (n : Nat) (hid : id < f.size) :
    mark f n id = .ok (f.mark n id) := by
  induction n generalizing f id with
  | zero => rfl
  | succ n ih =>
    obtain ⟨s, hs, hget⟩ := exists_get hid
    unfold mark Forest.mark
    simp only [hget, ok_bind, hs]
    cases hp : s.parent with
    | none => rfl
    | some p =>
      have hlt := hf ((parent?_of_find? hs).trans hp)
      let here := f.modify id fun s => { s with matched := true }
      have hparent : here.parent? = f.parent? := parent?_modify f id fun _ => rfl
      have hhere : here.ParentsOlder := by
        unfold ParentsOlder
        rw [hparent]
        exact hf
      have hpsize : p < here.size := by
        rw [size_modify]
        exact Nat.lt_trans hlt hid
      -- the mark just set moves no scope, so the way up goes on as before
      have hrest : mark here n p = .ok (here.mark n p) := ih hhere hpsize
      show (mark here n p >>= _) = _
      rw [hrest, ok_bind]
      rfl

/-- Marking fails just for an id from outside that names no scope, and changes nothing then. -/
theorem mark_eq (hf : f.WellFormed) (n : Nat) (id : Nat) :
    mark f n id =
      if 0 < n ∧ f.size ≤ id then .error ⟨id, f.size⟩ else .ok (f.mark n id) := by
  by_cases hid : id < f.size
  · rw [if_neg (by omega)]
    exact mark_eq_of_lt hf.parentsOlder n hid
  · cases n with
    | zero => rfl
    | succ n =>
      have hget : f.get id = .error ⟨id, f.size⟩ := get_eq_error_iff.2 ⟨Nat.not_lt.1 hid, rfl⟩
      rw [if_pos ⟨Nat.succ_pos n, Nat.not_lt.1 hid⟩]
      unfold mark
      rw [hget]
      rfl

theorem climb_eq (hf : f.ParentsOlder) {steps : Nat} (hsteps : id < steps) (hid : id < f.size) :
    climb f steps id = .ok (f.climb steps id) := by
  induction steps generalizing id with
  | zero => exact absurd hsteps (Nat.not_lt_zero id)
  | succ steps ih =>
    obtain ⟨s, hs, hget⟩ := exists_get hid
    unfold climb Forest.climb
    simp only [hget, ok_bind, parent?_of_find? hs]
    cases hp : s.parent with
    | none => rfl
    | some p =>
      have hlt := hf ((parent?_of_find? hs).trans hp)
      have hpsize : p < f.size := Nat.lt_trans hlt hid
      obtain ⟨t, ht, hgetp⟩ := exists_get hpsize
      have hmatched : f.isMatched p = t.matched := by simp [isMatched, ht]
      -- the steps do not run out: each leads to a smaller id
      have hpsteps : p < steps := Nat.lt_of_lt_of_le hlt (Nat.le_of_lt_succ hsteps)
      have hrest : climb f steps p = .ok (f.climb steps p) := ih hpsteps hpsize
      simp only [hgetp, ok_bind, hmatched]
      by_cases hm : t.matched = true
      · rw [if_pos hm, if_pos hm]
        exact hrest
      · rw [if_neg hm, if_neg hm]
        rfl

/-- Collecting goes on from what the scopes before have been folded into. -/
theorem collect_eq (hf : f.WellFormed) (before : List ScopeId) {ids : List ScopeId}
    (hids : ∀ id : Nat, id ∈ ids → id < f.size) :
    collect f (before.filterMap f.foldsInto?).eraseDups ids =
      .ok ((before ++ ids).filterMap f.foldsInto?).eraseDups := by
  induction ids generalizing before with
  | nil => simp [collect]
  | cons id rest ih =>
    have hid : id < f.size := hids id List.mem_cons_self
    have hrest := ih (before ++ [id]) fun other hother => hids other (List.mem_cons_of_mem _ hother)
    rw [List.append_assoc, List.singleton_append] at hrest
    rw [← hrest, List.filterMap_append]
    obtain ⟨s, hs, hget⟩ := exists_get hid
    have hmatched : f.isMatched id = s.matched := by simp [isMatched, hs]
    have hstep := collect.eq_def f (before.filterMap f.foldsInto?).eraseDups (id :: rest)
    simp only [hget, ok_bind] at hstep
    rw [hstep]
    by_cases hm : s.matched = true
    · -- the scope is folded into the one that climbing ends at
      have hle := outermostMatched_le hf.parentsOlder id
      have htop : f.outermostMatched id < f.size := Nat.lt_of_le_of_lt hle hid
      obtain ⟨t, ht, hgett⟩ := exists_get htop
      have hclosed : f.isClosed (f.outermostMatched id) = !t.isOpen := by simp [isClosed, ht]
      have hclimb : climb f f.size id = .ok (f.outermostMatched id) :=
        climb_eq hf.parentsOlder hid hid
      rw [if_pos hm, hclimb, ok_bind, hgett, ok_bind]
      cases hopen : t.isOpen with
      | true =>
        have hfold : [id].filterMap f.foldsInto? = [] := by
          simp [foldsInto?, hclosed, hopen]
        rw [hfold, List.append_nil]
        rfl
      | false =>
        have hfold : [id].filterMap f.foldsInto? = [f.outermostMatched id] := by
          simp [foldsInto?, hmatched, hm, hclosed, hopen]
        -- a result that is there already is not added again
        rw [hfold, eraseDups_concat]
        by_cases hnew : f.outermostMatched id ∈ before.filterMap f.foldsInto?
        · simp [hnew]
        · simp [hnew]
    · have hfold : [id].filterMap f.foldsInto? = [] := by
        simp [foldsInto?, hmatched, hm]
      rw [if_neg hm, hfold, List.append_nil]

theorem consolidate_eq (hf : f.WellFormed) : consolidate f = .ok f.consolidate := by
  unfold consolidate
  rw [Forest.consolidate_eq]
  exact collect_eq hf [] fun _ hid => hf.lt_size_of_mem_closed hid

theorem getAll_eq {ids : List ScopeId} (hids : ∀ id : Nat, id ∈ ids → id < f.size) :
    getAll f ids = .ok (ids.filterMap f.find?) := by
  induction ids with
  | nil => rfl
  | cons id rest ih =>
    obtain ⟨s, hs, hget⟩ := exists_get (hids id List.mem_cons_self)
    have hrest := ih fun other hother => hids other (List.mem_cons_of_mem _ hother)
    unfold getAll
    rw [hget, ok_bind, hrest, ok_bind, List.filterMap_cons, hs]
    rfl

theorem flushClosed_eq (hf : f.WellFormed) : flushClosed f = .ok f.flushClosed := by
  have hids : ∀ id : Nat, id ∈ f.consolidate → id < f.size := fun id hid =>
    hf.lt_size_of_mem_closed ((mem_consolidate_iff hf).1 hid).1
  unfold flushClosed
  rw [consolidate_eq hf, ok_bind, getAll_eq hids]
  rfl

/-- Looking marked scopes up is leaving out the unmarked ones afterwards. -/
theorem filterMap_find?_filter (f : Forest) (ids : List ScopeId) :
    (ids.filter f.isMatched).filterMap f.find? = (ids.filterMap f.find?).filter Scope.matched := by
  induction ids with
  | nil => rfl
  | cons id rest ih =>
    cases hs : f.find? id with
    | none =>
      have hm : f.isMatched id = false := by simp [isMatched, hs]
      simp [hs, hm, ih]
    | some s =>
      have hmatched : f.isMatched id = s.matched := by simp [isMatched, hs]
      cases hm : s.matched with
      | true => simp [hs, hmatched, hm, ih]
      | false => simp [hs, hmatched, hm, ih]

theorem openReports_eq (hf : f.WellFormed) : openReports f = .ok f.openReports := by
  have hids : ∀ id : Nat, id ∈ f.openIds → id < f.size := fun id hid =>
    hf.lt_size_of_mem_openStack (List.mem_reverse.1 hid)
  unfold openReports Forest.openReports reports
  rw [getAll_eq hids, filterMap_find?_filter]
  rfl

end Strict

/-- After any operations, in any order, a forest is well-formed. So no operation looks up an id that
names no scope, but for an id that is handed in. -/
theorem performAll_finds_every_scope (operations : List Operation) :
    let f := Forest.empty.performAll operations
    f.WellFormed ∧
    (∀ markers, Strict.apply f markers = .ok (f.apply markers)) ∧
    (∀ line span,
      Strict.innermostContaining? f line span = .ok (f.innermostContaining? line span)) ∧
    Strict.consolidate f = .ok f.consolidate ∧
    Strict.flushClosed f = .ok f.flushClosed ∧
    Strict.openReports f = .ok f.openReports ∧
    (∀ id, f.get id = .error ⟨id, f.size⟩ ↔ f.size ≤ id) ∧
    (∀ id, (∃ s, f.get id = .ok s) ↔ id < f.size) ∧
    (∀ count id, Strict.mark f count id =
      if 0 < count ∧ f.size ≤ id then .error ⟨id, f.size⟩ else .ok (f.mark count id)) := by
  intro f
  have hf : f.WellFormed := wellFormed_performAll operations
  refine ⟨hf, Strict.apply_eq hf, Strict.innermostContaining?_eq hf, Strict.consolidate_eq hf,
    Strict.flushClosed_eq hf, Strict.openReports_eq hf, ?_, ?_, Strict.mark_eq hf⟩
  · intro id
    rw [get_eq_error_iff]
    simp
  · intro id
    rw [← find?_isSome_iff, Option.isSome_iff_exists]
    exact exists_congr fun s => get_eq_ok_iff

end Forest

end ScopeSearch
