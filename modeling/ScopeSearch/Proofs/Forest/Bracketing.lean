import Mathlib.Data.List.Induction
import ScopeSearch.Proofs.Forest.Growth
import ScopeSearch.Proofs.Forest.Lookup
import ScopeSearch.Proofs.Marker.Word

/-!
# ScopeSearch.Proofs.Forest.Bracketing — reading is bracket matching

A closer is ignored by a rule that looks at the innermost open scope alone. The markers that are not
ignored (`kept`) are nevertheless a word of proper brackets, as far as it goes, and the forest says
what the brackets of this word say:

* `readAll_kept` — the ignored closers leave no trace;
* `openers_apply` — there is a scope for each opener;
* `leavesOpen_openStack` — the open scopes are the openers that the word leaves open;
* `closer_eq_some_iff`, `parent_eq_some_iff` — a scope is closed by the partner of its opener, and
  stands in the innermost opener around it;
* `reading_matches_brackets` — all of this for every list of markers.
-/

namespace ScopeSearch

open Marker (AllClosed ClosedBy Dyck InnermostOpen LeavesOpen Pairs StaysOpen openersOf)

namespace Forest

variable {f : Forest} {m o c : Marker} {markers word before after inner rest : List Marker}
  {s : Scope} {p top : Nat} {outer : List ScopeId}

/-! ## Ignored closers -/

/-- The markers that are not ignored when all are read one after the other. -/
def kept (f : Forest) : List Marker → List Marker
  | [] => []
  | m :: rest =>
    let (after, stray) := f.read m
    if stray.isNone then m :: after.kept rest else after.kept rest

theorem kept_cons (f : Forest) (m : Marker) (rest : List Marker) :
    f.kept (m :: rest) =
      if (f.read m).2.isNone then m :: (f.read m).1.kept rest else (f.read m).1.kept rest := rfl

theorem read_of_opener (f : Forest) (hm : m.delimiter.isOpener = true) :
    f.read m = (f.openScope m, none) := by
  simp [read, hm]

/-- An ignored closer leaves the forest as it is. -/
theorem read_of_stray (hstray : (f.read m).2 ≠ none) : (f.read m).1 = f := by
  unfold read at hstray ⊢
  split
  · rename_i hm
    simp [hm] at hstray
  · rename_i hm
    cases hcause : f.strayCause? m.delimiter with
    | some cause => rfl
    | none => simp [hm, hcause] at hstray

/-- The markers that are not ignored give the same forest by themselves, and none of them is ignored
then. -/
theorem readAll_kept (f : Forest) (markers : List Marker) :
    f.readAll (f.kept markers) = (f.apply markers, []) := by
  induction markers generalizing f with
  | nil => rfl
  | cons m rest ih =>
    rw [kept_cons, apply_cons]
    cases hstray : (f.read m).2 with
    | none =>
      have hrest := ih (f.read m).1
      simp [readAll, hrest, hstray]
    | some stray =>
      have hsame : (f.read m).1 = f := read_of_stray (by simp [hstray])
      rw [hsame]
      exact ih f

theorem apply_kept (f : Forest) (markers : List Marker) :
    f.apply (f.kept markers) = f.apply markers := by
  show (f.readAll (f.kept markers)).1 = f.apply markers
  rw [readAll_kept]

theorem strays_kept (f : Forest) (markers : List Marker) : f.strays (f.kept markers) = [] := by
  show (f.readAll (f.kept markers)).2 = []
  rw [readAll_kept]

/-- No opener is ignored. -/
theorem openersOf_kept (f : Forest) (markers : List Marker) :
    openersOf (f.kept markers) = openersOf markers := by
  induction markers generalizing f with
  | nil => rfl
  | cons m rest ih =>
    rw [kept_cons]
    by_cases hm : m.delimiter.isOpener = true
    · rw [read_of_opener f hm, Marker.openersOf_cons_of_opener hm]
      exact (Marker.openersOf_cons_of_opener hm _).trans (congrArg (m :: ·) (ih _))
    · have hdrop : ∀ word, openersOf (m :: word) = openersOf word :=
        fun word => List.filter_cons_of_neg hm
      rw [hdrop]
      split
      · rw [hdrop]
        exact ih _
      · exact ih _

/-! ## One scope for each opener -/

/-- The openers of the scopes, in the order the scopes opened. -/
def openers (f : Forest) : List Marker :=
  f.scopes.toList.map Scope.opener

theorem getElem?_openers (f : Forest) (id : Nat) :
    f.openers[id]? = (f.find? id).map Scope.opener := by
  simp [openers, find?]

theorem length_openers (f : Forest) : f.openers.length = f.size := by
  simp [openers, size]

theorem openers_openScope (f : Forest) (m : Marker) :
    (f.openScope m).openers = f.openers ++ [m] := by
  refine List.ext_getElem? fun id => ?_
  rw [getElem?_openers, find?_openScope]
  rcases Nat.lt_trichotomy id f.size with hlt | rfl | hgt
  · rw [if_neg (Nat.ne_of_lt hlt), List.getElem?_append_left (by rw [length_openers]; exact hlt),
      getElem?_openers]
    split
    · cases f.find? id <;> rfl
    · rfl
  · rw [if_pos rfl, ← length_openers, List.getElem?_concat_length]
    rfl
  · have hnone : f.find? id = none := by
      rw [← Option.not_isSome_iff_eq_none, find?_isSome_iff]
      exact Nat.not_lt.2 (Nat.le_of_lt hgt)
    have hlong : (f.openers ++ [m]).length ≤ id := by
      rw [List.length_append, length_openers]
      exact hgt
    rw [if_neg (Nat.ne_of_gt hgt), hnone, List.getElem?_eq_none hlong]
    split <;> rfl

theorem openers_closeInnermost (f : Forest) (m : Marker) :
    (f.closeInnermost m).openers = f.openers := by
  refine List.ext_getElem? fun id => ?_
  rw [getElem?_openers, getElem?_openers, find?_closeInnermost]
  split
  · cases f.find? id <;> rfl
  · rfl

theorem openers_read (f : Forest) (m : Marker) :
    (f.read m).1.openers = f.openers ++ openersOf [m] := by
  rcases f.read_cases m with ⟨hm, hread⟩ | ⟨hm, hread⟩ | ⟨hm, hread, -⟩
  · rw [hread, openers_openScope]
    simp [openersOf, hm]
  · rw [hread]
    simp [openersOf, hm]
  · rw [hread, openers_closeInnermost]
    simp [openersOf, hm]

/-- Reading adds one scope for each opener, in their order. -/
theorem openers_apply (f : Forest) (markers : List Marker) :
    (f.apply markers).openers = f.openers ++ openersOf markers := by
  induction markers generalizing f with
  | nil => exact (List.append_nil _).symm
  | cons m rest ih =>
    have hsplit : openersOf (m :: rest) = openersOf [m] ++ openersOf rest :=
      Marker.openersOf_append [m] rest
    rw [apply_cons, ih, openers_read, hsplit, List.append_assoc]

theorem openers_apply_empty (markers : List Marker) :
    (Forest.empty.apply markers).openers = openersOf markers :=
  openers_apply Forest.empty markers

/-- The id of a scope is the number of openers before its own. -/
theorem size_apply_empty (markers : List Marker) :
    (Forest.empty.apply markers).size = (openersOf markers).length := by
  rw [← length_openers, openers_apply_empty]

theorem exists_opened (hword : word = before ++ o :: after) (ho : o.delimiter.isOpener = true) :
    ∃ s, (Forest.empty.apply word).find? (openersOf before).length = some s ∧ s.opener = o := by
  have hopener : (Forest.empty.apply word).openers[(openersOf before).length]? = some o := by
    rw [openers_apply_empty, hword, Marker.openersOf_append, Marker.openersOf_cons_of_opener ho,
      List.getElem?_append_right (Nat.le_refl _), Nat.sub_self, List.getElem?_cons_zero]
  rw [getElem?_openers] at hopener
  exact Option.map_eq_some_iff.1 hopener

/-! ## Reading a word of brackets -/

/-- The partner of the innermost open scope's opener closes this scope. -/
theorem read_of_partner (hhead : f.openStack.head? = some top) (hs : f.find? top = some s)
    (hpair : Pairs s.opener c) : f.read c = (f.closeInnermost c, none) := by
  have hcause : f.strayCause? c.delimiter = none := by
    rw [strayCause?_of_head? hhead hs, if_pos hpair.partner.symm]
  simp [read, hpair.closer, hcause]

/-- A marker that is not ignored opens a scope, or closes the innermost one. -/
theorem read_cases_of_kept (hkept : (f.read m).2 = none) :
    (m.delimiter.isOpener = true ∧ (f.read m).1 = f.openScope m) ∨
      (f.read m).1 = f.closeInnermost m ∧ ∃ top outer s, f.openStack = top :: outer ∧
        f.find? top = some s ∧ s.opener.delimiter.partner = m.delimiter := by
  by_cases hm : m.delimiter.isOpener = true
  · exact .inl ⟨hm, by rw [read_of_opener f hm]⟩
  · cases hcause : f.strayCause? m.delimiter with
    | some cause => simp [read, hm, hcause] at hkept
    | none =>
      refine .inr ⟨?_, exists_innermost_of_strayCause?_eq_none hcause⟩
      simp [read, hm, hcause]

theorem WellFormed.of_read_eq {g : Forest} {stray : Option Stray} (hf : f.WellFormed)
    (hread : f.read m = (g, stray)) : g.WellFormed := by
  have hg := hf.read m
  rw [hread] at hg
  exact hg

/-- If what stands after an opener leaves its scope the innermost open one, then the partner of the
opener closes this scope. -/
theorem read_partner_of_opener (hf : f.WellFormed) (hpair : Pairs o c)
    (hstack : ((f.openScope o).apply inner).openStack = f.size :: f.openStack) :
    ((f.openScope o).apply inner).read c =
      (((f.openScope o).apply inner).closeInnermost c, none) := by
  have hgrown := grownBy_apply (hf.openScope o) inner
  have hopened : (f.openScope o).find? f.size = some (.opened f.openStack.head? o) := by
    rw [find?_openScope, if_pos rfl]
  obtain ⟨s, hs⟩ := exists_find? (Nat.lt_of_lt_of_le (lt_size_of_find? hopened) hgrown.size_le)
  have hopener : s.opener = o := (hgrown.old hopened hs).1
  have hhead : ((f.openScope o).apply inner).openStack.head? = some f.size := by
    rw [hstack, List.head?_cons]
  refine read_of_partner hhead hs ?_
  rw [hopener]
  exact hpair

/-- Reading a Dyck word ignores nothing, and leaves the same scopes open as before. -/
theorem readAll_dyck (hf : f.WellFormed) (hword : Dyck word) :
    (f.apply word).openStack = f.openStack ∧ f.strays word = [] := by
  induction hword generalizing f with
  | nil => exact ⟨rfl, rfl⟩
  | @pair o c inner rest hpair _ _ ihInner ihRest =>
    let inside := (f.openScope o).apply inner
    have hopen : f.read o = (f.openScope o, none) := read_of_opener f hpair.opener
    rcases ihInner (hf.openScope o) with ⟨hstack, hinner⟩
    have hclose : inside.read c = (inside.closeInnermost c, none) :=
      read_partner_of_opener hf hpair hstack
    have hafter : (inside.closeInnermost c).WellFormed :=
      ((hf.openScope o).apply inner).of_read_eq hclose
    have hinside : f.apply (o :: inner) = inside := by
      rw [apply_cons, hopen]
    rcases ihRest hafter with ⟨hrestStack, hrest⟩
    constructor
    · rw [apply_append, hinside, apply_cons, hclose, hrestStack, openStack_closeInnermost, hstack]
      rfl
    · rw [strays_append, hinside, strays_cons, strays_cons, hopen, hclose, hinner, hrest]
      rfl

/-- A scope whose opener has its partner is closed by it. -/
theorem closer_of_closedBy (hword : word = before ++ o :: after) (hclosed : ClosedBy o after c) :
    ∃ s, (Forest.empty.apply word).find? (openersOf before).length = some s ∧
      s.closer = some c := by
  rcases hclosed with ⟨hpair, inner, rest, rfl, hinner⟩
  let outside := Forest.empty.apply before
  let inside := (outside.openScope o).apply inner
  have houtside : outside.WellFormed := wellFormed_empty.apply before
  have hinside : inside.WellFormed := (houtside.openScope o).apply inner
  have hstack : inside.openStack = outside.size :: outside.openStack :=
    (readAll_dyck (houtside.openScope o) hinner).1
  have hopen : outside.read o = (outside.openScope o, none) := read_of_opener outside hpair.opener
  have hclose : inside.read c = (inside.closeInnermost c, none) :=
    read_partner_of_opener houtside hpair hstack
  have hall : Forest.empty.apply word = (inside.closeInnermost c).apply rest := by
    rw [hword, apply_append, apply_cons, hopen, apply_append, apply_cons, hclose]
  have htop : outside.size ∈ inside.openStack := by
    rw [hstack]
    exact List.mem_cons_self
  obtain ⟨s, hs⟩ := exists_find? (hinside.lt_size_of_mem_openStack htop)
  have hs' : (inside.closeInnermost c).find? outside.size = some { s with closer := some c } := by
    rw [find?_closeInnermost, hstack, List.head?_cons, if_pos rfl, hs]
    rfl
  -- a scope keeps its closer from then on
  have hgrown := grownBy_apply (hinside.of_read_eq hclose) rest
  obtain ⟨t, ht⟩ := exists_find? (Nat.lt_of_lt_of_le (lt_size_of_find? hs') hgrown.size_le)
  have hid : (openersOf before).length = outside.size := (size_apply_empty before).symm
  refine ⟨t, ?_, ?_⟩
  · rw [hall, hid]
    exact ht
  · rcases (hgrown.old hs' ht).2 with hsame | ⟨hnone, -⟩
    · exact hsame
    · cases hnone

/-! ## The openers left open -/

/-- The open scopes are the openers that a word leaves open, if none of it is ignored. -/
theorem leavesOpen_openStack (hkept : Forest.empty.strays word = []) :
    LeavesOpen word (Forest.empty.apply word).openStack := by
  induction word using List.reverseRecOn with
  | nil => exact .none .nil
  | append_singleton before m ih =>
    let f := Forest.empty.apply before
    have happly : Forest.empty.apply (before ++ [m]) = (f.read m).1 :=
      apply_append Forest.empty before [m]
    rw [strays_append, strays_cons] at hkept
    have hbefore : Forest.empty.strays before = [] := (List.append_eq_nil_iff.1 hkept).1
    have hm : (f.read m).2 = none := by
      have htail := (List.append_eq_nil_iff.1 (List.append_eq_nil_iff.1 hkept).2).1
      exact Option.toList_eq_nil_iff.1 htail
    have hopen : LeavesOpen before f.openStack := ih hbefore
    rw [happly]
    rcases read_cases_of_kept hm with
      ⟨hopener, hread⟩ | ⟨hread, top, outer, s, hstack, hs, hpartner⟩
    · have hid : f.size = (openersOf before).length := size_apply_empty before
      rw [hread]
      show LeavesOpen (before ++ [m]) (f.size :: f.openStack)
      rw [hid]
      exact .opener hopen hopener .nil
    · rw [hread, openStack_closeInnermost, hstack]
      rw [hstack] at hopen
      cases hopen with
      | @opener before' inner o outer hbefore' ho hinner =>
        -- the innermost scope is that of the last opener left open
        rcases exists_opened (rfl : before' ++ o :: inner = before' ++ o :: inner) ho with
          ⟨s', hs', hopener⟩
        obtain rfl : s' = s := Option.some.inj (hs'.symm.trans hs)
        rw [hopener] at hpartner
        have hgroup : Dyck (o :: inner ++ [m]) := Dyck.enclose ⟨ho, hpartner.symm⟩ hinner
        rw [List.append_assoc]
        exact hbefore'.append_dyck hgroup

/-- A scope is closed by the partner of its opener, and by no other marker. -/
theorem closer_eq_some_iff (hkept : Forest.empty.strays word = [])
    (hword : word = before ++ o :: after) (ho : o.delimiter.isOpener = true)
    (hs : (Forest.empty.apply word).find? (openersOf before).length = some s) :
    s.closer = some c ↔ ClosedBy o after c := by
  have hf : (Forest.empty.apply word).WellFormed := wellFormed_empty.apply word
  have hcloser : ∀ {c}, ClosedBy o after c → s.closer = some c := by
    intro c hclosed
    rcases closer_of_closedBy hword hclosed with ⟨s', hs', hcloser⟩
    rw [Option.some.inj (hs.symm.trans hs')]
    exact hcloser
  constructor
  · intro hc
    rcases (leavesOpen_openStack hkept).mem_or_closedBy hword ho with hopen | ⟨c', hclosed⟩
    · rw [(hf.closer_eq_none_iff hs).2 hopen] at hc
      cases hc
    · rw [hcloser hclosed] at hc
      cases hc
      exact hclosed
  · exact hcloser

/-- The open scopes are those whose openers have no partner. -/
theorem mem_openStack_iff_staysOpen (hkept : Forest.empty.strays word = [])
    (hword : word = before ++ o :: after) (ho : o.delimiter.isOpener = true) :
    (openersOf before).length ∈ (Forest.empty.apply word).openStack ↔ StaysOpen o after := by
  have hf : (Forest.empty.apply word).WellFormed := wellFormed_empty.apply word
  rcases exists_opened hword ho with ⟨s, hs, -⟩
  rw [← hf.closer_eq_none_iff hs, Option.eq_none_iff_forall_ne_some]
  constructor
  · intro hnone
    exact ⟨ho, fun c hclosed => hnone c ((closer_eq_some_iff hkept hword ho hs).2 hclosed)⟩
  · intro hopen c hc
    exact hopen.2 c ((closer_eq_some_iff hkept hword ho hs).1 hc)

/-- The innermost open scope is that of the last opener without a partner. -/
theorem exists_innermostOpen (hkept : Forest.empty.strays word = [])
    (hstack : (Forest.empty.apply word).openStack = top :: outer) :
    ∃ before o, InnermostOpen word before o ∧ (openersOf before).length = top := by
  have hopen := leavesOpen_openStack hkept
  rw [hstack] at hopen
  cases hopen with
  | @opener before inner o outer _ ho hinner =>
    have hmem :
        (openersOf before).length ∈ (Forest.empty.apply (before ++ o :: inner)).openStack := by
      rw [hstack]
      exact List.mem_cons_self
    have hstays := (mem_openStack_iff_staysOpen hkept rfl ho).1 hmem
    exact ⟨before, o, ⟨inner, rfl, hstays, hinner.allClosed⟩, rfl⟩

/-- No scope is open just if every opener has its partner. -/
theorem openStack_eq_nil_iff (hkept : Forest.empty.strays word = []) :
    (Forest.empty.apply word).openStack = [] ↔ AllClosed word := by
  constructor
  · intro hnone before o after hword hstays
    have hmem := (mem_openStack_iff_staysOpen hkept hword hstays.1).2 hstays
    rw [hnone] at hmem
    cases hmem
  · intro hall
    cases hstack : (Forest.empty.apply word).openStack with
    | nil => rfl
    | cons top outer =>
      rcases exists_innermostOpen hkept hstack with ⟨before, o, hinnermost, -⟩
      exact absurd hall hinnermost.not_allClosed

theorem head?_openStack_eq_some_iff (hkept : Forest.empty.strays word = []) :
    (Forest.empty.apply word).openStack.head? = some p ↔
      ∃ outer o, InnermostOpen word outer o ∧ (openersOf outer).length = p := by
  constructor
  · intro hhead
    obtain ⟨outer, hstack⟩ := List.head?_eq_some_iff.1 hhead
    exact exists_innermostOpen hkept hstack
  · rintro ⟨outer, o, hinnermost, rfl⟩
    cases hstack : (Forest.empty.apply word).openStack with
    | nil => exact absurd ((openStack_eq_nil_iff hkept).1 hstack) hinnermost.not_allClosed
    | cons top rest =>
      -- there is only one last opener without a partner
      rcases exists_innermostOpen hkept hstack with ⟨outer', o', hinnermost', rfl⟩
      rw [(hinnermost.unique hinnermost').1]
      rfl

theorem strays_of_append (hkept : Forest.empty.strays (before ++ after) = []) :
    Forest.empty.strays before = [] := by
  rw [strays_append] at hkept
  exact (List.append_eq_nil_iff.1 hkept).1

/-- The parent of a scope is the innermost opener around its own. -/
theorem parent_eq_some_iff (hkept : Forest.empty.strays word = [])
    (hword : word = before ++ o :: after) (ho : o.delimiter.isOpener = true)
    (hs : (Forest.empty.apply word).find? (openersOf before).length = some s) :
    s.parent = some p ↔
      ∃ outer o', InnermostOpen before outer o' ∧ (openersOf outer).length = p := by
  let outside := Forest.empty.apply before
  have houtside : outside.WellFormed := wellFormed_empty.apply before
  have hopen : outside.read o = (outside.openScope o, none) := read_of_opener outside ho
  have hall : Forest.empty.apply word = (outside.openScope o).apply after := by
    rw [hword, apply_append, apply_cons, hopen]
  have hid : (openersOf before).length = outside.size := (size_apply_empty before).symm
  -- a scope stays where it has opened
  have hgrown := grownBy_apply (houtside.openScope o) after
  have hparent : (Forest.empty.apply word).parent? outside.size = outside.openStack.head? := by
    rw [hall, hgrown.parent?_eq (by simp), parent?_openScope, if_pos rfl]
  rw [hid] at hs
  rw [← parent?_of_find? hs, hparent]
  rw [hword] at hkept
  exact head?_openStack_eq_some_iff (strays_of_append hkept)

/-- A closer is ignored just if no opener before it is left open, or the last one that is left open
is not its partner. -/
theorem stray_iff (hkept : Forest.empty.strays word = []) (hc : c.delimiter.isOpener = false) :
    ((Forest.empty.apply word).read c).2 ≠ none ↔
      AllClosed word ∨
        ∃ outer o, InnermostOpen word outer o ∧ c.delimiter ≠ o.delimiter.partner := by
  let f := Forest.empty.apply word
  have hread : (f.read c).2 ≠ none ↔ f.strayCause? c.delimiter ≠ none := by
    cases hcause : f.strayCause? c.delimiter <;> simp [read, hc, hcause]
  rw [hread, ← openStack_eq_nil_iff hkept]
  cases hstack : f.openStack with
  | nil =>
    have hcause : f.strayCause? c.delimiter = some .nothingOpen := by
      simp [strayCause?, innermost?, hstack]
    simp [hcause, f]
  | cons top rest =>
    rcases exists_innermostOpen hkept hstack with ⟨before, o, hinnermost, rfl⟩
    obtain ⟨after, hword, hstays, hlater⟩ := hinnermost
    rcases exists_opened hword hstays.1 with ⟨s, hs, rfl⟩
    have hhead : f.openStack.head? = some (openersOf before).length := by
      rw [hstack, List.head?_cons]
    rw [strayCause?_of_head? hhead hs]
    constructor
    · intro hstray
      refine .inr ⟨before, s.opener, ⟨after, hword, hstays, hlater⟩, fun hpartner => hstray ?_⟩
      rw [if_pos hpartner.symm]
    · rintro (hnil | ⟨outer, o', hinnermost', hne⟩)
      · cases hnil
      · have hsame := InnermostOpen.unique ⟨after, hword, hstays, hlater⟩ hinnermost'
        rw [← hsame.2] at hne
        rw [if_neg (Ne.symm hne)]
        exact Option.some_ne_none _

/-- Reading markers in several lots is reading them all at once. -/
theorem foldl_apply (f : Forest) (batches : List (List Marker)) :
    batches.foldl apply f = f.apply batches.flatten := by
  induction batches generalizing f with
  | nil => rfl
  | cons markers rest ih => rw [List.foldl_cons, ih, List.flatten_cons, apply_append]

/-- Reading is bracket matching, whatever the markers are and wherever they stand. A closer is
ignored just if no opener before it is still unclosed, or the last one that is unclosed is not its
partner. The other markers are a word that a Dyck word begins with. There is one scope for each
opener, in their order; it is closed by the partner that the opener has in this word, if it has one,
and stands in the innermost opener around it. The word gives the same forest by itself, and none of
it is ignored. So nothing is ignored of a Dyck word, and it leaves no scope open. -/
theorem reading_matches_brackets (batches : List (List Marker)) :
    let markers := batches.flatten
    let f := batches.foldl Forest.apply Forest.empty
    let word := Forest.empty.kept markers
    (∀ before c after, markers = before ++ c :: after → c.delimiter.isOpener = false →
      let earlier := Forest.empty.kept before
      (((Forest.empty.apply before).read c).2 ≠ none ↔
        AllClosed earlier ∨
          ∃ outer o, InnermostOpen earlier outer o ∧ c.delimiter ≠ o.delimiter.partner)) ∧
    openersOf word = openersOf markers ∧
    (∃ rest, Dyck (word ++ rest)) ∧
    f.openers = openersOf markers ∧
    (∀ before o after, word = before ++ o :: after → o.delimiter.isOpener = true →
      ∃ s, f.find? (openersOf before).length = some s ∧ s.opener = o ∧
        (∀ c, s.closer = some c ↔ ClosedBy o after c) ∧
        ∀ p, s.parent = some p ↔
          ∃ outer o', InnermostOpen before outer o' ∧ (openersOf outer).length = p) ∧
    Forest.empty.readAll word = (f, []) ∧
    (Dyck markers → Forest.empty.strays markers = [] ∧ f.depth = 0) := by
  intro markers f word
  have hf : f = Forest.empty.apply markers := foldl_apply Forest.empty batches
  have hword : Forest.empty.apply word = f := (apply_kept Forest.empty markers).trans hf.symm
  have hkept : Forest.empty.strays word = [] := strays_kept Forest.empty markers
  refine ⟨?_, openersOf_kept Forest.empty markers, ?_, ?_, ?_, ?_, ?_⟩
  · intro before c after _ hc earlier
    have hearlier : Forest.empty.apply earlier = Forest.empty.apply before :=
      apply_kept Forest.empty before
    rw [← hearlier]
    exact stray_iff (strays_kept Forest.empty before) hc
  · rcases (leavesOpen_openStack hkept).exists_completion with ⟨rest, hrest⟩
    have hcompleted := hrest [] .nil
    rw [List.append_nil] at hcompleted
    exact ⟨rest, hcompleted⟩
  · rw [hf, openers_apply_empty]
  · intro before o after hat ho
    rcases exists_opened hat ho with ⟨s, hs, hopener⟩
    refine ⟨s, ?_, hopener, ?_, ?_⟩
    · rw [← hword]
      exact hs
    · exact fun c => closer_eq_some_iff hkept hat ho hs
    · exact fun p => parent_eq_some_iff hkept hat ho hs
  · exact Prod.ext hword hkept
  · intro hdyck
    rcases readAll_dyck wellFormed_empty hdyck with ⟨hstack, hstrays⟩
    refine ⟨hstrays, ?_⟩
    rw [hf]
    exact List.length_eq_zero_iff.2 hstack

/-- The markers `([)` and then `]`: the parenthesis is not closed, as its closer stands in the
bracket and is ignored; the bracket is closed, and stands in the parenthesis. Without the two
parentheses nothing is ignored and nothing left open. -/
theorem reading_matches_brackets_mismatched :
    let around : Marker := ⟨⟨.paren, .opener⟩, ⟨0, 0⟩⟩
    let opener : Marker := ⟨⟨.bracket, .opener⟩, ⟨0, 1⟩⟩
    let stray : Marker := ⟨⟨.paren, .closer⟩, ⟨0, 2⟩⟩
    let closer : Marker := ⟨⟨.bracket, .closer⟩, ⟨1, 0⟩⟩
    let f := [[around, opener, stray], [closer]].foldl Forest.apply Forest.empty
    (∃ s, f.find? 1 = some s ∧ s.opener = opener ∧ s.closer = some closer ∧ s.parent = some 0) ∧
      Dyck [opener, closer] ∧ Forest.empty.strays [opener, closer] = [] := by
  intro around opener stray closer f
  have hpair : Pairs opener closer := ⟨rfl, rfl⟩
  have hword :
      Forest.empty.kept [around, opener, stray, closer] = [around] ++ opener :: [closer] := by
    decide
  constructor
  · rcases (reading_matches_brackets [[around, opener, stray], [closer]]).2.2.2.2.1
      [around] opener [closer] hword rfl with ⟨s, hs, hopener, hcloser, hparent⟩
    have hclosed : ClosedBy opener [closer] closer := ⟨hpair, [], [], rfl, .nil⟩
    have hstays : StaysOpen around [] := ⟨rfl, by simp [ClosedBy]⟩
    have hinnermost : InnermostOpen [around] [] around := ⟨[], rfl, hstays, Dyck.nil.allClosed⟩
    exact ⟨s, hs, hopener, (hcloser closer).2 hclosed, (hparent 0).2 ⟨[], around, hinnermost, rfl⟩⟩
  · have hdyck : Dyck [opener, closer] := .pair hpair .nil .nil
    exact ⟨hdyck, ((reading_matches_brackets [[opener, closer]]).2.2.2.2.2.2 hdyck).1⟩

end Forest

end ScopeSearch
