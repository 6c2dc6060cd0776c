import Rollup.Composite

/-!
# Expansion of named dependencies

A job of a dependency graph names its direct dependencies only, but each of
those still waits for the stages before its own. Expansion adds one entry per
stage position at which a named job is held up: the composite of everything
before that position. The question what that composite is may have a state of
its own, such as a memo, which is threaded through.
-/

namespace Rollup

/-- A named job: what it contributes and where it runs. -/
structure Dependency where
  entry : Entry
  position : Position
  deriving DecidableEq, Repr

/-- A row as a dependency. -/
def Dependency.ofRow (row : Row) : Dependency :=
  ⟨row.entry, row.position⟩

/-- Insert a position into a strictly ascending list. -/
def insertPosition (position : Position) : List Position → List Position
  | [] => [position]
  | head :: rest =>
      if position < head then
        position :: head :: rest
      else if position = head then
        head :: rest
      else
        head :: insertPosition position rest

/-- The distinct positions of a list, in ascending order. -/
def distinctPositions : List Position → List Position
  | [] => []
  | position :: rest => insertPosition position (distinctPositions rest)

namespace Table

/-- Whether a dependency can hold anything up: a success cannot, and neither can
a tolerated failure. -/
def holdsUp (table : Table) (dependency : Dependency) : Bool :=
  dependency.entry.status != .success && !table.ignores dependency.entry

/-- The positions whose earlier stages have to be asked about. -/
def blockingPositions (table : Table) (named : List Dependency) : List Position :=
  distinctPositions ((named.filter table.holdsUp).map Dependency.position)

end Table

/-- Ask about each position in turn, threading the state of the asking. -/
def probeEach {σ : Type} (probe : Position → σ → Status × σ) :
    List Position → σ → List Entry × σ
  | [], state => ([], state)
  | position :: rest, state =>
      let (status, state) := probe position state
      let (entries, state) := probeEach probe rest state
      (.required status :: entries, state)

/-- One entry for each position at which a named job is held up, in ascending
order. Such an entry never tolerates failure. -/
def expand {σ : Type} (table : Table) (named : List Dependency)
    (probe : Position → σ → Status × σ) (state : σ) : List Entry × σ :=
  probeEach probe (table.blockingPositions named) state

end Rollup
