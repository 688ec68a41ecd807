import ScopeSearch.Proofs.Forest.Consolidation

/-!
# ScopeSearch.Proofs.Forest.Later — the same scopes further down

If lines are put before others, then the markers of the others stand further down by as many lines,
and so do the scopes that they open and close (`Relabelling.later`). Places are only ever compared
with each other, so nothing else changes:

* `Marker.onLine_later` — a line has the same markers wherever it stands;
* `contains_later`, `innermostContaining?_later` — the same scopes contain a span;
* `mark_later`, `consolidate_later` — the same scopes are marked and consolidated;
* `reports_later` — what is reported stands further down.
-/

namespace ScopeSearch

/-! ## Places -/

/-- The place `n` lines further down. -/
def Position.later (n : Nat) (p : Position) : Position :=
  { p with line := p.line + n }

/-- The marker `n` lines further down. -/
def Marker.later (n : Nat) (m : Marker) : Marker :=
  { m with position := m.position.later n }

/-- The scope with its two markers `n` lines further down. -/
def Scope.later (n : Nat) (s : Scope) : Scope :=
  { s with opener := s.opener.later n, closer := s.closer.map (Marker.later n) }

/-- The range `n` lines further down. -/
def Report.later (n : Nat) (r : Report) : Report :=
  ⟨r.start.later n, r.stop.map (Position.later n)⟩

theorem Position.later_le_later (n : Nat) (p q : Position) : p.later n ≤ q.later n ↔ p ≤ q := by
  simp only [Position.le_def, Position.later]
  omega

theorem Marker.fromColumn_later (n number column : Nat) (text : Bytes) :
    fromColumn (number + n) column text = (fromColumn number column text).map (later n) := by
  induction text generalizing column with
  | nil => rfl
  | cons b rest ih =>
    unfold fromColumn
    cases headDelimiter? (b :: rest) with
    | none => exact ih (column + 1)
    | some d => exact congrArg (_ :: ·) (ih (column + 1))

/-- A line has the same markers wherever it stands. -/
theorem Marker.onLine_later (n number : Nat) (text : Bytes) :
    onLine text (number + n) = (onLine text number).map (later n) :=
  fromColumn_later n number 0 text

theorem Scope.report_later (n : Nat) (s : Scope) : (s.later n).report = s.report.later n := by
  unfold Scope.report Scope.later Report.later
  cases s.closer <;> rfl

/-- A scope contains the same spans wherever it stands. -/
theorem Scope.contains_later (n line : Nat) (s : Scope) (span : Span) :
    (s.later n).Contains (line + n) span ↔ s.Contains line span := by
  have hstart : (s.later n).opener.position ≤ ⟨line + n, span.start⟩ ↔
      s.opener.position ≤ ⟨line, span.start⟩ :=
    Position.later_le_later n s.opener.position ⟨line, span.start⟩
  have hstop : ∀ c : Marker, (⟨line + n, span.stop⟩ : Position) ≤ (c.later n).position ↔
      ⟨line, span.stop⟩ ≤ c.position :=
    fun c => Position.later_le_later n ⟨line, span.stop⟩ c.position
  unfold Scope.Contains
  rw [hstart]
  refine and_congr_right fun _ => ?_
  cases hcloser : s.closer with
  | none => simp [Scope.later, hcloser]
  | some c => simp [Scope.later, hcloser, hstop c]

/-! ## Forests -/

/-- Putting scopes further down leaves delimiters and links as they are. -/
def Relabelling.later (n : Nat) : Relabelling where
  scope := Scope.later n
  marker := Marker.later n
  delimiter_marker := fun _ => rfl
  delimiter_opener := fun _ => rfl
  parent := fun _ => rfl
  push := fun _ _ => rfl
  opened := fun _ _ => rfl
  close := fun _ _ => rfl

namespace Forest

theorem contains_later (n : Nat) (f : Forest) (line : Nat) (span : Span) :
    (f.relabel (.later n)).contains (line + n) span = f.contains line span := by
  funext id
  exact any_find?_relabel (fun s => decide_eq_decide.2 (s.contains_later n line span)) f id

/-- The same scope is found for a span wherever all of it stands. -/
theorem innermostContaining?_later (n : Nat) (f : Forest) (line : Nat) (span : Span) :
    (f.relabel (.later n)).innermostContaining? (line + n) span =
      f.innermostContaining? line span := by
  unfold innermostContaining?
  rw [contains_later, closed_relabel, openStack_relabel]

theorem isMatched_later (n : Nat) (f : Forest) :
    (f.relabel (.later n)).isMatched = f.isMatched := by
  funext id
  exact any_find?_relabel (fun _ => rfl) f id

theorem isClosed_later (n : Nat) (f : Forest) : (f.relabel (.later n)).isClosed = f.isClosed := by
  funext id
  refine any_find?_relabel (fun s => ?_) f id
  show (!(s.closer.map (Marker.later n)).isNone) = !s.closer.isNone
  rw [Option.isNone_map]

/-- The same scopes are marked wherever they stand. -/
theorem mark_later (n : Nat) (f : Forest) (count : Nat) (id : ScopeId) :
    ((f.relabel (.later n)).mark count id).1 = ((f.mark count id).1).relabel (.later n) := by
  -- the way up is the same, and only marks change on it
  refine ext_find? (fun a => ?_) ?_ ?_
  · rw [find?_relabel, find?_mark, find?_mark, find?_relabel, wayUp_relabel]
    cases f.find? a <;> rfl
  · simp
  · simp

/-- The same scopes are to be reported wherever they stand. -/
theorem consolidate_later (n : Nat) (f : Forest) :
    (f.relabel (.later n)).consolidate = f.consolidate := by
  have hclimb : (f.relabel (.later n)).outermostMatched = f.outermostMatched := by
    funext id
    unfold outermostMatched
    rw [size_relabel]
    exact climb_congr (parent?_relabel _ f) (isMatched_later n f) f.size id
  unfold consolidate
  rw [closed_relabel, isMatched_later, isClosed_later, hclimb]

/-- What is reported stands further down. -/
theorem reports_later (n : Nat) (f : Forest) (ids : List ScopeId) :
    (f.relabel (.later n)).reports ids = (f.reports ids).map (Report.later n) := by
  unfold reports
  have hfind : (f.relabel (.later n)).find? = fun id => (f.find? id).map (Scope.later n) :=
    funext fun id => find?_relabel _ f id
  rw [hfind, List.map_map, ← List.map_filterMap, List.map_map]
  refine List.map_congr_left fun s _ => ?_
  exact s.report_later n

theorem openReports_later (n : Nat) (f : Forest) :
    (f.relabel (.later n)).openReports = f.openReports.map (Report.later n) := by
  unfold openReports openIds
  rw [openStack_relabel, isMatched_later, reports_later]

end Forest

end ScopeSearch
