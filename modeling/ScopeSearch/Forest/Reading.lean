import ScopeSearch.Forest.Basic

/-!
# ScopeSearch.Forest.Reading — opening and closing scopes

Every opener opens a scope inside the innermost open one. A closer closes the innermost open scope
if it is the partner of that scope's opener; any other closer is a stray, which leaves the forest as
it is. Nothing is looked up ahead and nothing is mended later.
-/

namespace ScopeSearch

/-- Why a closer closes nothing. -/
inductive StrayCause where
  /-- No scope is open. -/
  | nothingOpen
  /-- The innermost open scope waits for the partner of another opener. -/
  | innermostOpenedWith (opener : Delimiter)
deriving DecidableEq, Repr

/-- A closer that closes nothing. -/
structure Stray where
  marker : Marker
  cause : StrayCause
deriving DecidableEq, Repr

namespace Forest

/-- Replaces the scope of a given id; an id that names no scope changes nothing. -/
def modify (f : Forest) (id : ScopeId) (change : Scope → Scope) : Forest :=
  { f with scopes := f.scopes.modify id change }

@[simp] theorem size_modify (f : Forest) (id : ScopeId) (change : Scope → Scope) :
    (f.modify id change).size = f.size := by
  simp [modify, size]

theorem find?_modify (f : Forest) (id other : ScopeId) (change : Scope → Scope) :
    (f.modify id change).find? other =
      if other = id then (f.find? other).map change else f.find? other := by
  simp only [modify, find?, Array.getElem?_modify, eq_comm (a := id)]

/-- Opens a scope inside the innermost open one. -/
def openScope (f : Forest) (opener : Marker) : Forest :=
  let id := f.size
  let parent := f.openStack.head?
  let around :=
    match parent with
    | some p => f.scopes.modify p fun s => { s with children := s.children.push id }
    | none => f.scopes
  { f with
    scopes := around.push (Scope.opened parent opener)
    openStack := id :: f.openStack }

@[simp] theorem size_openScope (f : Forest) (opener : Marker) :
    (f.openScope opener).size = f.size + 1 := by
  unfold openScope
  cases f.openStack.head? <;> simp [size]

@[simp] theorem depth_openScope (f : Forest) (opener : Marker) :
    (f.openScope opener).depth = f.depth + 1 := by
  simp [openScope, depth]

/-- The new scope has the next id and stands inside the innermost open one, which takes it in as its
last child; all others are as before. -/
theorem find?_openScope (f : Forest) (opener : Marker) (id : ScopeId) :
    (f.openScope opener).find? id =
      if id = f.size then some (.opened f.openStack.head? opener)
      else if f.openStack.head? = some id then
        (f.find? id).map fun s => { s with children := s.children.push f.size }
      else f.find? id := by
  unfold openScope
  cases f.openStack.head? with
  | none => simp [find?, size, Array.getElem?_push]
  | some p =>
    simp only [find?, size, Array.getElem?_push, Array.size_modify, Array.getElem?_modify,
      Option.some.injEq]

/-- Closes the innermost open scope, if there is one. -/
def closeInnermost (f : Forest) (closer : Marker) : Forest :=
  match f.openStack with
  | [] => f
  | id :: outer =>
    { scopes := f.scopes.modify id fun s => { s with closer := some closer }
      openStack := outer
      closed := f.closed.push id }

@[simp] theorem size_closeInnermost (f : Forest) (closer : Marker) :
    (f.closeInnermost closer).size = f.size := by
  unfold closeInnermost
  split <;> simp [size]

@[simp] theorem depth_closeInnermost (f : Forest) (closer : Marker) :
    (f.closeInnermost closer).depth = f.depth - 1 := by
  unfold closeInnermost
  split <;> simp_all [depth]

/-- The innermost open scope gets its closer; all others are as before. -/
theorem find?_closeInnermost (f : Forest) (closer : Marker) (id : ScopeId) :
    (f.closeInnermost closer).find? id =
      if f.openStack.head? = some id then
        (f.find? id).map fun s => { s with closer := some closer }
      else f.find? id := by
  unfold closeInnermost
  split <;> simp_all [find?, Array.getElem?_modify]

@[simp] theorem openStack_closeInnermost (f : Forest) (closer : Marker) :
    (f.closeInnermost closer).openStack = f.openStack.tail := by
  unfold closeInnermost
  split <;> simp_all

@[simp] theorem closed_closeInnermost (f : Forest) (closer : Marker) :
    (f.closeInnermost closer).closed.toList = f.closed.toList ++ f.openStack.head?.toList := by
  unfold closeInnermost
  split <;> simp_all

/-- Why the closer `d` would close nothing now; `none` if it would close the innermost open
scope. -/
def strayCause? (f : Forest) (d : Delimiter) : Option StrayCause :=
  match f.innermost? with
  | none => some .nothingOpen
  | some s =>
    if s.opener.delimiter.partner = d then none
    else some (.innermostOpenedWith s.opener.delimiter)

theorem strayCause?_of_head? {f : Forest} {top : ScopeId} {s : Scope}
    (hhead : f.openStack.head? = some top) (hs : f.find? top = some s) (d : Delimiter) :
    f.strayCause? d =
      if s.opener.delimiter.partner = d then none
      else some (.innermostOpenedWith s.opener.delimiter) := by
  simp [strayCause?, innermost?, hhead, hs]

/-- A closer that is not a stray is the partner of the innermost open scope's opener. -/
theorem exists_innermost_of_strayCause?_eq_none {f : Forest} {d : Delimiter}
    (hcause : f.strayCause? d = none) :
    ∃ top outer s, f.openStack = top :: outer ∧ f.find? top = some s ∧
      s.opener.delimiter.partner = d := by
  cases hstack : f.openStack with
  | nil => simp [strayCause?, innermost?, hstack] at hcause
  | cons top outer =>
    have hhead : f.openStack.head? = some top := by rw [hstack, List.head?_cons]
    cases hs : f.find? top with
    | none => simp [strayCause?, innermost?, hstack, hs] at hcause
    | some s =>
      rw [strayCause?_of_head? hhead hs] at hcause
      by_cases hpartner : s.opener.delimiter.partner = d
      · exact ⟨top, outer, s, rfl, hs, hpartner⟩
      · rw [if_neg hpartner] at hcause
        cases hcause

/-- Reads one marker: the forest after it, and the marker with the cause if it is a stray. -/
def read (f : Forest) (m : Marker) : Forest × Option Stray :=
  if m.delimiter.isOpener then (f.openScope m, none)
  else
    match f.strayCause? m.delimiter with
    | some cause => (f, some ⟨m, cause⟩)
    | none => (f.closeInnermost m, none)

/-- A closer is a stray just if there is a cause for it to close nothing. -/
theorem stray_read (f : Forest) (m : Marker) :
    (f.read m).2 =
      if m.delimiter.isOpener then none
      else (f.strayCause? m.delimiter).map (Stray.mk m) := by
  unfold read
  split
  · rfl
  · cases f.strayCause? m.delimiter <;> rfl

/-- What reading a marker can come to: it opens a scope, it is a stray, or it closes the innermost
open scope, whose opener it is the partner of. -/
theorem read_cases (f : Forest) (m : Marker) :
    (m.delimiter.isOpener = true ∧ (f.read m).1 = f.openScope m) ∨
    (m.delimiter.isOpener = false ∧ (f.read m).1 = f) ∨
    (m.delimiter.isOpener = false ∧ (f.read m).1 = f.closeInnermost m ∧
      ∃ top outer s, f.openStack = top :: outer ∧ f.find? top = some s ∧
        s.opener.delimiter.partner = m.delimiter) := by
  by_cases hopener : m.delimiter.isOpener = true
  · exact .inl ⟨hopener, by simp [read, hopener]⟩
  · have hcloser : m.delimiter.isOpener = false := Bool.eq_false_iff.2 hopener
    refine .inr ?_
    cases hcause : f.strayCause? m.delimiter with
    | some cause => exact .inl ⟨hcloser, by simp [read, hcloser, hcause]⟩
    | none =>
      refine .inr ⟨hcloser, by simp [read, hcloser, hcause], ?_⟩
      exact exists_innermost_of_strayCause?_eq_none hcause

/-- Reads markers one after the other: the forest after them, and the strays among them in order. -/
def readAll (f : Forest) : List Marker → Forest × List Stray
  | [] => (f, [])
  | m :: rest =>
    let (after, stray) := f.read m
    let (final, strays) := after.readAll rest
    (final, stray.toList ++ strays)

/-- The forest after some markers. -/
def apply (f : Forest) (markers : List Marker) : Forest :=
  (f.readAll markers).1

/-- The strays among some markers. -/
def strays (f : Forest) (markers : List Marker) : List Stray :=
  (f.readAll markers).2

@[simp] theorem apply_nil (f : Forest) : f.apply [] = f := rfl

@[simp] theorem apply_cons (f : Forest) (m : Marker) (rest : List Marker) :
    f.apply (m :: rest) = (f.read m).1.apply rest := rfl

/-- Reading two lists one after the other is reading them as one. -/
theorem apply_append (f : Forest) (before after : List Marker) :
    f.apply (before ++ after) = (f.apply before).apply after := by
  induction before generalizing f with
  | nil => rfl
  | cons m rest ih => simp [ih]

/-- What every marker keeps, markers keep. -/
theorem apply_induction {motive : Forest → Prop}
    (hread : ∀ f m, motive f → motive (f.read m).1) {f : Forest} (hf : motive f)
    (markers : List Marker) : motive (f.apply markers) := by
  induction markers generalizing f with
  | nil => exact hf
  | cons m rest ih => exact ih (hread f m hf)

@[simp] theorem strays_nil (f : Forest) : f.strays [] = [] := rfl

theorem strays_cons (f : Forest) (m : Marker) (rest : List Marker) :
    f.strays (m :: rest) = (f.read m).2.toList ++ (f.read m).1.strays rest := rfl

theorem strays_append (f : Forest) (before after : List Marker) :
    f.strays (before ++ after) = f.strays before ++ (f.apply before).strays after := by
  induction before generalizing f with
  | nil => rfl
  | cons m rest ih => simp [strays_cons, ih]

end Forest

end ScopeSearch
