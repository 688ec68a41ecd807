import ScopeSearch.Main
import ScopeSearch.Shown
import ScopeSearch.Proofs.Marker.Order
import ScopeSearch.Proofs.Marker.Occurrence
import ScopeSearch.Proofs.Marker.Scan
import ScopeSearch.Proofs.Marker.Word
import ScopeSearch.Proofs.Report.Nesting
import ScopeSearch.Proofs.Forest.Ancestry
import ScopeSearch.Proofs.Forest.Relabelling
import ScopeSearch.Proofs.Forest.Marking
import ScopeSearch.Proofs.Forest.WellFormed
import ScopeSearch.Proofs.Forest.Consolidation
import ScopeSearch.Proofs.Forest.Lookup
import ScopeSearch.Proofs.Forest.Later
import ScopeSearch.Proofs.Forest.Beside
import ScopeSearch.Proofs.Forest.Geometry
import ScopeSearch.Proofs.Forest.Drawn
import ScopeSearch.Proofs.Forest.Growth
import ScopeSearch.Proofs.Forest.Tightest
import ScopeSearch.Proofs.Forest.Reported
import ScopeSearch.Proofs.Forest.Widening
import ScopeSearch.Proofs.Search.Retained
import ScopeSearch.Proofs.Search.Offline
import ScopeSearch.Proofs.Search.Coverage
import ScopeSearch.Proofs.Search.Widening
import ScopeSearch.Proofs.Search.Checkpoint
import ScopeSearch.Proofs.Run.Faults
import ScopeSearch.Proofs.Run.Literal
import ScopeSearch.Proofs.Forest.Flushing
import ScopeSearch.Proofs.Forest.Lifecycle
import ScopeSearch.Proofs.Search.Innermost
import ScopeSearch.Proofs.Forest.Outermost
import ScopeSearch.Proofs.Search.BalancedRun
import ScopeSearch.Proofs.Search.Unfailing
import ScopeSearch.Proofs.Search.Held
import ScopeSearch.Proofs.Document.Rendering
import ScopeSearch.Proofs.Document.Recovery
import ScopeSearch.Proofs.Forest.Bracketing
import ScopeSearch.Proofs.Forest.Commuting
import ScopeSearch.Proofs.Forest.Ignored
import ScopeSearch.Proofs.Search.Accounting
import ScopeSearch.Proofs.CommandLine.Conventions
import ScopeSearch.Proofs.CommandLine.Reading
import ScopeSearch.Proofs.CommandLine.Conforming
import ScopeSearch.Proofs.CommandLine.Normalization
import ScopeSearch.Proofs.CommandLine.Phrases
import ScopeSearch.Proofs.CommandLine.RoundTrip
import ScopeSearch.Proofs.Report.Violation
import ScopeSearch.Proofs.Forest.Walk
import ScopeSearch.Proofs.Run.Unambiguous
import ScopeSearch.Proofs.CommandLine.LogLevel
