import ScopeSearch.Marker
import ScopeSearch.Report
import ScopeSearch.Span

/-!
# ScopeSearch.Scope — a pair of delimiters and what it encloses

A scope begins where its opener stands and ends where its closer stands, if it has one yet. Scopes
name each other by ids, which the forest that holds them gives out.
-/

namespace ScopeSearch

/-- The name of a scope in its forest: scopes are numbered from zero as they open. -/
abbrev ScopeId := Nat

/-- A scope: an opener, the closer that ends it once that is read, and its place in the forest. -/
structure Scope where
  /-- The scope directly around it. -/
  parent : Option ScopeId
  /-- The scopes directly inside it, in the order they opened. -/
  children : Array ScopeId
  opener : Marker
  /-- The marker that closed it; `none` while it is open. -/
  closer : Option Marker
  /-- It is to be reported, by itself or as a part of a marked scope around it. -/
  matched : Bool
deriving DecidableEq, Repr

namespace Scope

/-- A scope that has just been opened. -/
def opened (parent : Option ScopeId) (opener : Marker) : Scope :=
  ⟨parent, #[], opener, none, false⟩

/-- The scope is open: its closer has not been read. -/
def isOpen (s : Scope) : Bool :=
  s.closer.isNone

/-- The span on line `line` starts no earlier than the opener and stops no later than the closer; an
open scope contains everything from its opener on. -/
def Contains (s : Scope) (line : Nat) (span : Span) : Prop :=
  s.opener.position ≤ ⟨line, span.start⟩ ∧
    ∀ closer ∈ s.closer, (⟨line, span.stop⟩ : Position) ≤ closer.position

instance (s : Scope) (line : Nat) (span : Span) : Decidable (s.Contains line span) :=
  inferInstanceAs (Decidable (_ ∧ _))

/-- The range that the scope is reported as. -/
def report (s : Scope) : Report :=
  ⟨s.opener.position, s.closer.map Marker.position⟩

end Scope

end ScopeSearch
