import ScopeSearch.Line
import ScopeSearch.Marker
import ScopeSearch.Report
import ScopeSearch.Text.Padding

/-!
# ScopeSearch.Shown — showing things in a field

Delimiters and lines are texts, and are fitted into the field they are shown in. Places and reports
are put together from parts, and are shown the same in every field.
-/

namespace ScopeSearch

/-- What can be shown in a field. -/
inductive Shown where
  | delimiter (d : Delimiter)
  | line (l : Line)
  | position (p : Position)
  | report (r : Report)
deriving DecidableEq, Repr

/-- What is shown in a field. -/
def Shown.text (field : Text.Padding) : Shown → String
  | .delimiter d => field.fit d.text
  | .line l => field.fit l.display
  | .position p => p.text
  | .report r => r.text

end ScopeSearch
