import ScopeSearch.Proofs.Forest.Geometry

/-!
# ScopeSearch.Proofs.Forest.Drawn — scopes are pairs of markers

Every scope of a forest has come from the markers that have been read: its opener is one of them,
and an opener at that, and so is its closer, if it has one, and the partner of the opener.
`DrawnFrom` says so, and reading markers keeps it (`DrawnFrom.apply`).
-/

namespace ScopeSearch.Forest

variable {f : Forest} {m : Marker} {markers : List Marker}

/-- The scopes of the forest are pairs of the markers given, or unpaired openers among them. -/
structure DrawnFrom (markers : List Marker) (f : Forest) : Prop where
  opener : ∀ ⦃id s⦄, f.find? id = some s →
    s.opener ∈ markers ∧ s.opener.delimiter.isOpener = true
  closer : ∀ ⦃id s⦄, f.find? id = some s →
    ∀ c ∈ s.closer, c ∈ markers ∧ c.delimiter = s.opener.delimiter.partner

theorem drawnFrom_empty (markers : List Marker) : DrawnFrom markers Forest.empty where
  opener := fun _ _ hs => by cases hs
  closer := fun _ _ hs => by cases hs

namespace DrawnFrom

theorem openScope (h : DrawnFrom markers f) (hm : m ∈ markers)
    (hopener : m.delimiter.isOpener = true) : DrawnFrom markers (f.openScope m) := by
  constructor
  case opener =>
    intro id t ht
    rcases find?_openScope_cases ht with ⟨-, hnew, -⟩ | ⟨-, s, hs, hold, -⟩
    · rw [hnew]
      exact ⟨hm, hopener⟩
    · rw [hold]
      exact h.opener hs
  case closer =>
    intro id t ht c hc
    rcases find?_openScope_cases ht with ⟨-, -, hopen⟩ | ⟨-, s, hs, hold, hcloser⟩
    · rw [hopen] at hc
      cases hc
    · rw [hcloser] at hc
      rw [hold]
      exact h.closer hs c hc

theorem closeInnermost (h : DrawnFrom markers f) (hm : m ∈ markers) {top : Nat}
    {outer : List ScopeId} {u : Scope} (hstack : f.openStack = top :: outer)
    (hu : f.find? top = some u) (hpartner : u.opener.delimiter.partner = m.delimiter) :
    DrawnFrom markers (f.closeInnermost m) := by
  constructor
  case opener =>
    intro id t ht
    rcases find?_closeInnermost_cases hstack ht with ⟨s, hs, hold, -⟩
    rw [hold]
    exact h.opener hs
  case closer =>
    intro id t ht c hc
    rcases find?_closeInnermost_cases hstack ht with ⟨s, hs, hold, ⟨rfl, hclosed⟩ | ⟨-, hsame⟩⟩
    · -- the innermost scope gets the partner of its opener
      rw [hclosed] at hc
      cases hc
      rw [hold, Option.some.inj (hs.symm.trans hu)]
      exact ⟨hm, hpartner.symm⟩
    · rw [hsame] at hc
      rw [hold]
      exact h.closer hs c hc

theorem read (h : DrawnFrom markers f) (hm : m ∈ markers) : DrawnFrom markers (f.read m).1 := by
  rcases f.read_cases m with
    ⟨hopener, hread⟩ | ⟨-, hread⟩ | ⟨-, hread, top, outer, u, hstack, hu, hpartner⟩
  · rw [hread]
    exact h.openScope hm hopener
  · rw [hread]
    exact h
  · rw [hread]
    exact h.closeInnermost hm hstack hu hpartner

/-- Reading markers makes pairs of these. -/
theorem apply {given : List Marker} (h : DrawnFrom markers f) (hgiven : given ⊆ markers) :
    DrawnFrom markers (f.apply given) := by
  induction given generalizing f with
  | nil => exact h
  | cons m rest ih =>
    rw [List.cons_subset] at hgiven
    exact ih (h.read hgiven.1) hgiven.2

end DrawnFrom

end ScopeSearch.Forest
