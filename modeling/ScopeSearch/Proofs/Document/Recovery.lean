import ScopeSearch.Proofs.Document.Rendering
import ScopeSearch.Proofs.Search.Checkpoint
import ScopeSearch.Proofs.Search.Coverage

/-!
# ScopeSearch.Proofs.Document.Recovery — a document is read back from its text

The groups of a document are numbered in the order they open. `Document.scopes`, `Document.roots`
and `Document.postorder` say which scopes they are, without any reading. Reading the delimiters of a
document into a forest puts just these scopes into the innermost open one (`Forest.adopt`):

* `Forest.readAll_markers` — by induction on the document, whatever forest they are read into;
* `documents_are_recovered` — so the lines of a document give the forest of its groups, and a search
  of these lines reports ranges of groups and has nothing left at the end.
-/

namespace ScopeSearch

/-! ## Groups as scopes -/

namespace Document

/-- The number of groups. -/
def size : Document → Nat
  | nil => 0
  | word _ rest => rest.size
  | newline rest => rest.size
  | group _ inner rest => inner.size + 1 + rest.size

/-- The groups that stand in no other one. The first group has the id `first`. -/
def roots : ScopeId → Document → List ScopeId
  | _, nil => []
  | first, word _ rest => rest.roots first
  | first, newline rest => rest.roots first
  | first, group _ inner rest => first :: rest.roots (first + (inner.size + 1))

/-- The groups, each after all that stand in it. The first group has the id `first`. -/
def postorder : ScopeId → Document → List ScopeId
  | _, nil => []
  | first, word _ rest => rest.postorder first
  | first, newline rest => rest.postorder first
  | first, group _ inner rest =>
    inner.postorder (first + 1) ++ first :: rest.postorder (first + (inner.size + 1))

/-- The groups as scopes, in the order they open. The document is written at `p` inside the group
`parent`, and its first group has the id `first`. -/
def scopes : Option ScopeId → ScopeId → Position → Document → List Scope
  | _, _, _, nil => []
  | parent, first, p, word w rest => rest.scopes parent first (p.afterToken w.bytes)
  | parent, first, p, newline rest => rest.scopes parent first ⟨p.line + 1, 0⟩
  | parent, first, p, group pair inner rest =>
    let inside := p.afterToken pair.opener.bytes
    let last := inner.stop inside
    { parent := parent
      children := (inner.roots (first + 1)).toArray
      opener := ⟨pair.opener, p.token⟩
      closer := some ⟨pair.closer, last.token⟩
      matched := false } :: inner.scopes (some first) (first + 1) inside ++
        rest.scopes parent (first + (inner.size + 1)) (last.afterToken pair.closer.bytes)

theorem length_scopes (doc : Document) (parent : Option ScopeId) (first : ScopeId)
    (p : Position) : (doc.scopes parent first p).length = doc.size := by
  induction doc generalizing parent first p with
  | nil => rfl
  | word w rest ih => exact ih parent first _
  | newline rest ih => exact ih parent first _
  | group pair inner rest ihInner ihRest =>
    rw [scopes, List.length_append, List.length_cons, ihInner, ihRest, size]

end Document

/-! ## Closed scopes put into a forest -/

namespace Forest

variable {f : Forest} {ids ids' waiting waiting' : List ScopeId} {scopes scopes' : List Scope}

/-- The forest with more scopes, all of them closed. Those in `ids` stand directly in the innermost
open scope, and those in `waiting` wait to be flushed. -/
def adopt (f : Forest) (ids : List ScopeId) (scopes : List Scope) (waiting : List ScopeId) :
    Forest where
  scopes :=
    (match f.openStack.head? with
      | some p => f.scopes.modify p fun s => { s with children := s.children ++ ids.toArray }
      | none => f.scopes) ++ scopes.toArray
  openStack := f.openStack
  closed := f.closed ++ waiting.toArray

@[simp] theorem openStack_adopt (f : Forest) (ids : List ScopeId) (scopes : List Scope)
    (waiting : List ScopeId) : (f.adopt ids scopes waiting).openStack = f.openStack := rfl

@[simp] theorem size_adopt (f : Forest) (ids : List ScopeId) (scopes : List Scope)
    (waiting : List ScopeId) : (f.adopt ids scopes waiting).size = f.size + scopes.length := by
  unfold adopt size
  cases f.openStack.head? <;> simp

theorem find?_adopt (f : Forest) (ids : List ScopeId) (scopes : List Scope)
    (waiting : List ScopeId) (id : Nat) :
    (f.adopt ids scopes waiting).find? id =
      if id < f.size then
        if f.openStack.head? = some id then
          (f.find? id).map fun s => { s with children := s.children ++ ids.toArray }
        else f.find? id
      else scopes[id - f.size]? := by
  unfold adopt find? size
  cases f.openStack.head? with
  | none => simp [Array.getElem?_append]
  | some p => simp [Array.getElem?_append, Array.getElem?_modify]

theorem adopt_nil (f : Forest) : f.adopt [] [] [] = f := by
  refine ext_find? (fun (id : Nat) => ?_) rfl (by simp [adopt])
  rw [find?_adopt]
  by_cases hid : id < f.size
  · rw [if_pos hid]
    cases f.find? id <;> simp
  · have hnone : f.find? id = none := by
      rw [← Option.not_isSome_iff_eq_none, find?_isSome_iff]
      exact hid
    rw [if_neg hid, hnone, List.getElem?_nil]

/-- Scopes put in one after the other are put in together. -/
theorem adopt_adopt (hf : f.WellFormed) :
    (f.adopt ids scopes waiting).adopt ids' scopes' waiting' =
      f.adopt (ids ++ ids') (scopes ++ scopes') (waiting ++ waiting') := by
  refine ext_find? (fun (id : Nat) => ?_) rfl (by simp [adopt])
  rw [find?_adopt, find?_adopt, find?_adopt, openStack_adopt, size_adopt]
  by_cases hid : id < f.size
  · have hmore : id < f.size + scopes.length := Nat.lt_add_right scopes.length hid
    simp only [if_pos hid, if_pos hmore]
    by_cases htop : f.openStack.head? = some id
    · simp only [if_pos htop, Option.map_map]
      cases f.find? id <;> simp
    · simp only [if_neg htop]
  · -- the innermost open scope is none of those that have been put in
    have htop : ¬ f.openStack.head? = some id := fun h => hid (hf.lt_size_of_head? h)
    simp only [if_neg hid, if_neg htop]
    by_cases hmore : id < f.size + scopes.length
    · have hfirst : id - f.size < scopes.length := by omega
      rw [if_pos hmore, List.getElem?_append_left hfirst]
    · have hsecond : scopes.length ≤ id - f.size := by omega
      rw [if_neg hmore, List.getElem?_append_right hsecond, Nat.sub_sub]

/-- Scopes put into a scope that has just opened, and then closes, are put in with it. -/
theorem closeInnermost_adopt_openScope (f : Forest) (opener closer : Marker) :
    ((f.openScope opener).adopt ids scopes waiting).closeInnermost closer =
      f.adopt [f.size]
        (⟨f.openStack.head?, ids.toArray, opener, some closer, false⟩ :: scopes)
        (waiting ++ [f.size]) := by
  let opened := f.openScope opener
  have hstack : opened.openStack = f.size :: f.openStack := rfl
  have hhead : (opened.adopt ids scopes waiting).openStack.head? = some f.size := rfl
  refine ext_find? (fun (id : Nat) => ?_) ?_ (Array.toList_inj.1 ?_)
  · rw [find?_closeInnermost, hhead, find?_adopt, find?_adopt, size_openScope, hstack,
      List.head?_cons, find?_openScope]
    rcases Nat.lt_trichotomy id f.size with hlt | heq | hgt
    · have hne : ¬ some f.size = some id := by simp [Nat.ne_of_gt hlt]
      rw [if_neg hne, if_pos (Nat.lt_succ_of_lt hlt), if_neg hne, if_neg (Nat.ne_of_lt hlt),
        if_pos hlt]
      simp
    · rw [heq]
      simp [Scope.opened]
    · have hne : ¬ some f.size = some id := by simp [Nat.ne_of_lt hgt]
      have hnew : ¬ id < f.size + 1 := by omega
      have hold : ¬ id < f.size := by omega
      have hsub : id - f.size = id - (f.size + 1) + 1 := by omega
      rw [if_neg hne, if_neg hnew, if_neg hold, hsub, List.getElem?_cons_succ]
  · rw [openStack_closeInnermost, openStack_adopt, hstack, openStack_adopt, List.tail_cons]
  · simp [adopt, openScope]

end Forest

/-! ## Reading a document -/

/-- The partner of its opener closes the scope that has opened last. -/
theorem Forest.read_closer (f : Forest) (pair : Pair) (q q' : Position) (ids : List ScopeId)
    (scopes : List Scope) (waiting : List ScopeId) :
    let g := (f.openScope ⟨pair.opener, q⟩).adopt ids scopes waiting
    g.read ⟨pair.closer, q'⟩ = (g.closeInnermost ⟨pair.closer, q'⟩, none) := by
  intro g
  have hinnermost : g.innermost? =
      some { Scope.opened f.openStack.head? ⟨pair.opener, q⟩ with children := ids.toArray } := by
    have hstack : (f.openScope ⟨pair.opener, q⟩).openStack.head? = some f.size := rfl
    show g.find? f.size = _
    rw [find?_adopt, size_openScope, if_pos (Nat.lt_succ_self f.size), if_pos hstack,
      find?_openScope, if_pos rfl]
    simp [Scope.opened]
  have hcause : g.strayCause? pair.closer = none := by
    unfold strayCause?
    rw [hinnermost]
    exact if_pos rfl
  have hcloser : (Marker.mk pair.closer q').delimiter.isOpener = false := rfl
  simp only [read, hcloser, hcause]
  rfl

/-- If some delimiters put closed scopes into a scope that has just opened, then with its own two
delimiters around them they put in this scope with all the others in it. -/
theorem Forest.read_group (f : Forest) (pair : Pair) (q q' : Position) {markers : List Marker}
    {ids : List ScopeId} {scopes : List Scope} {waiting : List ScopeId}
    (happly : (f.openScope ⟨pair.opener, q⟩).apply markers =
      (f.openScope ⟨pair.opener, q⟩).adopt ids scopes waiting)
    (hstrays : (f.openScope ⟨pair.opener, q⟩).strays markers = []) :
    let group := ⟨pair.opener, q⟩ :: markers ++ [⟨pair.closer, q'⟩]
    f.apply group = f.adopt [f.size] (⟨f.openStack.head?, ids.toArray, ⟨pair.opener, q⟩,
        some ⟨pair.closer, q'⟩, false⟩ :: scopes) (waiting ++ [f.size]) ∧
      f.strays group = [] := by
  intro group
  let opening : List Marker := ⟨pair.opener, q⟩ :: markers
  have hcloser := read_closer f pair q q' ids scopes waiting
  have hopening : f.apply opening = (f.openScope ⟨pair.opener, q⟩).adopt ids scopes waiting := happly
  have hopeningStrays : f.strays opening = [] := hstrays
  constructor
  · rw [apply_append, hopening, apply_cons, hcloser, apply_nil, closeInnermost_adopt_openScope]
  · rw [strays_append, hopeningStrays, hopening, strays_cons, hcloser]
    rfl

/-- Reading the delimiters of a document puts its groups into the innermost open scope, and ignores
none of them. -/
theorem Forest.readAll_markers (doc : Document) (p : Position) {f : Forest} (hf : f.WellFormed) :
    f.apply (doc.markers p) = f.adopt (doc.roots f.size)
        (doc.scopes f.openStack.head? f.size p) (doc.postorder f.size) ∧
      f.strays (doc.markers p) = [] := by
  induction doc generalizing f p with
  | nil => exact ⟨(adopt_nil f).symm, rfl⟩
  | word w rest ih => exact ih (p.afterToken w.bytes) hf
  | newline rest ih => exact ih ⟨p.line + 1, 0⟩ hf
  | group pair inner rest ihInner ihRest =>
    let inside := p.afterToken pair.opener.bytes
    let last := inner.stop inside
    let after := last.afterToken pair.closer.bytes
    let between : List Marker :=
      ⟨pair.opener, p.token⟩ :: inner.markers inside ++ [⟨pair.closer, last.token⟩]
    have hmarkers : (Document.group pair inner rest).markers p = between ++ rest.markers after := by
      simp only [Document.markers, between, inside, last, after, List.cons_append,
        List.append_assoc, List.nil_append]
    -- the group is put in with all that stands in it
    rcases ihInner inside (hf.openScope ⟨pair.opener, p.token⟩) with ⟨hinner, hinnerStrays⟩
    rw [size_openScope] at hinner
    rcases read_group f pair p.token last.token hinner hinnerStrays with ⟨hgroup, hgroupStrays⟩
    -- and the rest is put in after it
    have hsize : (f.apply between).size = f.size + (inner.size + 1) := by
      rw [hgroup, size_adopt, List.length_cons, Document.length_scopes]
    have hstack : (f.apply between).openStack = f.openStack := by
      rw [hgroup, openStack_adopt]
    rcases ihRest after (hf.apply between) with ⟨hrest, hrestStrays⟩
    rw [hsize, hstack] at hrest
    rw [hmarkers]
    constructor
    · rw [apply_append, hrest, hgroup, adopt_adopt hf]
      simp only [Document.roots, Document.scopes, Document.postorder, List.append_assoc,
        List.cons_append, List.nil_append]
      rfl
    · rw [strays_append, hgroupStrays, hrestStrays]
      rfl

/-! ## Documents as input -/

/-- The forest of the groups of a document, none of which is open. -/
def Document.forest (doc : Document) : Forest where
  scopes := (doc.scopes none 0 .origin).toArray
  openStack := []
  closed := (doc.postorder 0).toArray

/-- The delimiters in the lines of a document give the forest of its groups, and none of them is
ignored. -/
theorem Document.readAll_lines (doc : Document) :
    Forest.empty.readAll (Offline.markersFrom 0 doc.lines) = (doc.forest, []) := by
  rcases Forest.readAll_markers doc .origin Forest.wellFormed_empty with ⟨happly, hstrays⟩
  have hforest : Forest.empty.adopt (doc.roots 0) (doc.scopes none 0 .origin) (doc.postorder 0) =
      doc.forest := by
    simp [Forest.adopt, Forest.empty, Document.forest]
  rw [markersFrom_lines]
  exact Prod.ext (happly.trans hforest) hstrays

/-- Documents are recovered from their text. Reading the delimiters in the lines of a document
ignores none of them and leaves no scope open. It gives one scope for each group, in the order they
open, with the places of the group's delimiters, the group around it as its parent and the groups
directly in it as its children, and they have closed in postorder. So a search of these lines
reports ranges of groups alone, and has nothing left to report when the input ends. -/
theorem documents_are_recovered (doc : Document) (matcher : Matcher) (options : Options) :
    Forest.empty.readAll (Offline.markersFrom 0 doc.lines) = (doc.forest, []) ∧
      doc.forest.depth = 0 ∧
      let (steps, final) := Search.start.feedLines matcher options doc.lines
      (∀ r ∈ steps.flatMap Step.reports, ∃ s ∈ doc.scopes none 0 .origin, s.report = r) ∧
        final.finish.reports = [] := by
  have hread := doc.readAll_lines
  have hforest : Offline.forest doc.lines = doc.forest := congrArg Prod.fst hread
  refine ⟨hread, rfl, ?_, ?_⟩
  · intro r hr
    have hmem := (mem_reports_iff_reported matcher options doc.lines).1
      (List.mem_append_left _ hr)
    rcases hmem with ⟨id, s, -, hs, hreport⟩
    rw [hforest] at hs
    refine ⟨s, ?_, hreport⟩
    exact List.mem_of_getElem? ((List.getElem?_toArray).symm.trans hs)
  · have hdepth : (Search.start.feedLines matcher options doc.lines).2.depth = 0 := by
      rw [Search.depth_feedLines, hforest]
      rfl
    show (Search.start.feedLines matcher options doc.lines).2.finish.reports = []
    rw [Search.feedLines_of_depth_eq_zero doc.lines hdepth]
    rfl

end ScopeSearch
