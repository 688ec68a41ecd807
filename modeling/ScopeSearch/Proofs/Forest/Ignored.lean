import ScopeSearch.Proofs.Forest.Bracketing

/-!
# ScopeSearch.Proofs.Forest.Ignored — the closers that end no scope

A closer that is ignored leaves no trace in the forest, so what is ignored can be read off the
markers and the forest that they lead to:

* `depth_apply` — every opener adds to the depth, and every closer that is not ignored takes from
  it;
* `marker_strays` — of markers that stand at different places, those ignored are the closers that no
  scope has in the end;
* `exists_before_of_mem_strays` — each is ignored for what was innermost when it was read.
-/

namespace ScopeSearch

open Marker (openersOf)

/-- The closers of a word, in their order. -/
def Marker.closersOf (word : List Marker) : List Marker :=
  word.filter fun m => !m.delimiter.isOpener

open Marker (closersOf)

theorem Marker.closersOf_append (v w : List Marker) :
    closersOf (v ++ w) = closersOf v ++ closersOf w :=
  List.filter_append v w

namespace Forest

variable {f : Forest} {m c : Marker} {top : Nat} {outer : List ScopeId} {markers : List Marker}
  {stray : Stray}

/-! ## Depth -/

/-- An opener adds to the depth, and a closer takes from it unless it is ignored. -/
theorem depth_read (f : Forest) (m : Marker) :
    (f.read m).1.depth + (closersOf [m]).length =
      f.depth + (openersOf [m]).length + (f.read m).2.toList.length := by
  by_cases hm : m.delimiter.isOpener = true
  · simp [read_of_opener f hm, closersOf, openersOf, hm]
  · cases hcause : f.strayCause? m.delimiter with
    | some cause => simp [read, closersOf, openersOf, hm, hcause]
    | none =>
      -- the closer is not ignored, so there is a scope that it closes
      rcases exists_innermost_of_strayCause?_eq_none hcause with ⟨top, outer, -, hstack, -⟩
      have hdepth : f.depth = outer.length + 1 := congrArg List.length hstack
      simp [read, closersOf, openersOf, hm, hcause, hdepth]

theorem depth_apply (f : Forest) (markers : List Marker) :
    (f.apply markers).depth + (closersOf markers).length =
      f.depth + (openersOf markers).length + (f.strays markers).length := by
  induction markers generalizing f with
  | nil => rfl
  | cons m rest ih =>
    have hclosers : closersOf (m :: rest) = closersOf [m] ++ closersOf rest :=
      Marker.closersOf_append [m] rest
    have hopeners : openersOf (m :: rest) = openersOf [m] ++ openersOf rest :=
      Marker.openersOf_append [m] rest
    have hfirst := depth_read f m
    have hrest := ih (f.read m).1
    rw [apply_cons, strays_cons, hclosers, hopeners, List.length_append, List.length_append,
      List.length_append]
    omega

/-! ## The closers of scopes -/

/-- The marker is the closer of one of the scopes. -/
def hasCloser (f : Forest) (c : Marker) : Bool :=
  f.scopes.any fun s => s.closer = some c

theorem hasCloser_iff : f.hasCloser c = true ↔ ∃ id s, f.find? id = some s ∧ s.closer = some c := by
  simp only [hasCloser, find?, Array.any_eq_true, Array.getElem?_eq_some_iff, decide_eq_true_iff]
  constructor
  · rintro ⟨id, hid, hc⟩
    exact ⟨id, f.scopes[id], ⟨hid, rfl⟩, hc⟩
  · rintro ⟨id, s, ⟨hid, rfl⟩, hc⟩
    exact ⟨id, hid, hc⟩

theorem hasCloser_openScope (f : Forest) (m c : Marker) :
    (f.openScope m).hasCloser c = f.hasCloser c := by
  rw [Bool.eq_iff_iff, hasCloser_iff, hasCloser_iff]
  constructor
  · rintro ⟨id, t, ht, hc⟩
    rcases find?_openScope_cases ht with ⟨-, -, hnone⟩ | ⟨-, s, hs, -, hsame⟩
    · rw [hnone] at hc
      cases hc
    · exact ⟨id, s, hs, hsame.symm.trans hc⟩
  · rintro ⟨id, s, hs, hc⟩
    have hid := lt_size_of_find? hs
    obtain ⟨t, ht⟩ : ∃ t, (f.openScope m).find? id = some t :=
      exists_find? (by rw [size_openScope]; omega)
    rcases (grownBy_openScope f m).old hs ht with ⟨-, hsame | ⟨hopen, -⟩⟩
    · exact ⟨id, t, ht, hsame.trans hc⟩
    · rw [hopen] at hc
      cases hc

/-- The scope that is closed gets the closer, and the others keep theirs. -/
theorem hasCloser_closeInnermost (hf : f.WellFormed) (hstack : f.openStack = top :: outer)
    (m c : Marker) : (f.closeInnermost m).hasCloser c = (decide (c = m) || f.hasCloser c) := by
  have htop : top ∈ f.openStack := by simp [hstack]
  have hsize : top < (f.closeInnermost m).size := by
    rw [size_closeInnermost]
    exact hf.lt_size_of_mem_openStack htop
  rw [Bool.eq_iff_iff, Bool.or_eq_true, decide_eq_true_iff, hasCloser_iff, hasCloser_iff]
  constructor
  · rintro ⟨id, t, ht, hc⟩
    rcases find?_closeInnermost_cases hstack ht with ⟨s, hs, -, ⟨-, hclosed⟩ | ⟨-, hsame⟩⟩
    · rw [hclosed] at hc
      exact .inl (Option.some.inj hc).symm
    · exact .inr ⟨id, s, hs, hsame.symm.trans hc⟩
  · rintro (rfl | ⟨id, s, hs, hc⟩)
    · obtain ⟨t, ht⟩ := exists_find? hsize
      rcases find?_closeInnermost_cases hstack ht with ⟨-, -, -, ⟨-, hclosed⟩ | ⟨hne, -⟩⟩
      · exact ⟨top, t, ht, hclosed⟩
      · exact absurd rfl hne
    · have hid := lt_size_of_find? hs
      obtain ⟨t, ht⟩ : ∃ t, (f.closeInnermost m).find? id = some t :=
        exists_find? (by rw [size_closeInnermost]; exact hid)
      rcases (grownBy_closeInnermost hf m hstack).old hs ht with ⟨-, hsame | ⟨hopen, -⟩⟩
      · exact ⟨id, t, ht, hsame.trans hc⟩
      · rw [hopen] at hc
        cases hc

/-- A marker gives a scope no other closer than itself. -/
theorem hasCloser_read_of_ne (hf : f.WellFormed) (hne : c ≠ m) :
    (f.read m).1.hasCloser c = f.hasCloser c := by
  rcases f.read_cases m with ⟨-, hread⟩ | ⟨-, hread⟩ | ⟨-, hread, top, outer, -, hstack, -⟩
  · rw [hread, hasCloser_openScope]
  · rw [hread]
  · rw [hread, hasCloser_closeInnermost hf hstack, decide_eq_false hne, Bool.false_or]

/-- Scopes are closed by the markers that have been read. -/
theorem mem_of_hasCloser (h : (Forest.empty.apply markers).hasCloser c = true) : c ∈ markers := by
  rcases hasCloser_iff.1 h with ⟨id, t, ht, hc⟩
  induction markers using List.reverseRecOn generalizing id t with
  | nil => cases ht
  | append_singleton before m ih =>
    by_contra hnot
    rw [List.mem_append, not_or, List.mem_singleton] at hnot
    have hf : (Forest.empty.apply before).WellFormed := wellFormed_empty.apply before
    rw [apply_append] at h
    have hbefore := (hasCloser_read_of_ne hf hnot.2).symm.trans h
    rcases hasCloser_iff.1 hbefore with ⟨id', s, hs, hc'⟩
    exact hnot.1 (ih hbefore id' s hs hc')

/-! ## The closers that are ignored -/

/-- A closer that no scope has yet is ignored just if no scope has it afterwards. -/
theorem marker_stray_read (hf : f.WellFormed) (hnew : f.hasCloser m = false) :
    (f.read m).2.toList.map Stray.marker =
      (closersOf [m]).filter fun c => !(f.read m).1.hasCloser c := by
  by_cases hm : m.delimiter.isOpener = true
  · simp [read_of_opener f hm, closersOf, hm]
  · cases hcause : f.strayCause? m.delimiter with
    | some cause => simp [read, closersOf, hm, hcause, hnew]
    | none =>
      rcases exists_innermost_of_strayCause?_eq_none hcause with ⟨top, outer, -, hstack, -⟩
      have hclosed : (f.closeInnermost m).hasCloser m = true := by
        rw [hasCloser_closeInnermost hf hstack, decide_eq_true rfl, Bool.true_or]
      simp [read, closersOf, hm, hcause, hclosed]

/-- Of markers no two of which are the same, those ignored are the closers that no scope has in the
end, in their order. -/
theorem marker_strays (hnodup : markers.Nodup) :
    (Forest.empty.strays markers).map Stray.marker =
      (closersOf markers).filter fun c => !(Forest.empty.apply markers).hasCloser c := by
  induction markers using List.reverseRecOn with
  | nil => rfl
  | append_singleton before m ih =>
    rcases List.nodup_append.1 hnodup with ⟨hbefore, -, hapart⟩
    let f := Forest.empty.apply before
    have hf : f.WellFormed := wellFormed_empty.apply before
    have hne : ∀ c ∈ before, c ≠ m := fun c hc => hapart c hc m (List.mem_singleton_self m)
    have hnew : f.hasCloser m = false := by
      by_contra h
      rw [Bool.not_eq_false] at h
      exact hne m (mem_of_hasCloser h) rfl
    have hlast : f.strays [m] = (f.read m).2.toList := List.append_nil _
    -- the last marker closes nothing that a marker before it might have closed
    have hold : (closersOf before).filter (fun c => !(f.read m).1.hasCloser c) =
        (closersOf before).filter fun c => !f.hasCloser c := by
      refine List.filter_congr fun c hc => ?_
      rw [hasCloser_read_of_ne hf (hne c (List.mem_filter.1 hc).1)]
    rw [strays_append, List.map_append, ih hbefore, hlast, marker_stray_read hf hnew,
      Marker.closersOf_append, List.filter_append, apply_append]
    exact congrArg (· ++ _) hold.symm

/-- The forest explains why a closer is ignored: no scope is open, or the innermost open scope,
whose opener is given, waits for another closer. -/
def Explains (f : Forest) (stray : Stray) : Prop :=
  (f.depth = 0 ∧ stray.cause = .nothingOpen) ∨
    ∃ s, f.innermost? = some s ∧ s.opener.delimiter.partner ≠ stray.marker.delimiter ∧
      stray.cause = .innermostOpenedWith s.opener.delimiter

theorem explains_of_strayCause? (hf : f.WellFormed)
    (hcause : f.strayCause? stray.marker.delimiter = some stray.cause) : f.Explains stray := by
  cases hstack : f.openStack with
  | nil =>
    have hnothing : stray.cause = .nothingOpen := by
      simpa [strayCause?, innermost?, hstack, eq_comm] using hcause
    exact .inl ⟨congrArg List.length hstack, hnothing⟩
  | cons top outer =>
    have hhead : f.openStack.head? = some top := by rw [hstack, List.head?_cons]
    obtain ⟨s, hs⟩ := exists_find? (hf.lt_size_of_head? hhead)
    rw [strayCause?_of_head? hhead hs] at hcause
    split at hcause
    · cases hcause
    · rename_i hother
      have hinnermost : f.innermost? = some s := by simp [innermost?, hhead, hs]
      exact .inr ⟨s, hinnermost, hother, (Option.some.inj hcause).symm⟩

/-- What is ignored is a closer, and the forest that it was read in explains why. -/
theorem exists_before_of_mem_strays (hf : f.WellFormed) (hstray : stray ∈ f.strays markers) :
    ∃ before after, markers = before ++ stray.marker :: after ∧
      stray.marker.delimiter.isOpener = false ∧ (f.apply before).Explains stray := by
  induction markers generalizing f with
  | nil => cases hstray
  | cons m rest ih =>
    rw [strays_cons, List.mem_append] at hstray
    rcases hstray with hhere | hlater
    · rw [stray_read] at hhere
      split at hhere
      · cases hhere
      · rename_i hm
        obtain ⟨cause, hcause, rfl⟩ := Option.map_eq_some_iff.1 (Option.mem_toList.1 hhere)
        exact ⟨[], rest, rfl, Bool.eq_false_iff.2 hm, explains_of_strayCause? hf hcause⟩
    · rcases ih (hf.read m) hlater with ⟨before, after, hrest, hcloser, hexplains⟩
      refine ⟨m :: before, after, ?_, hcloser, hexplains⟩
      rw [hrest, List.cons_append]

end Forest

end ScopeSearch
