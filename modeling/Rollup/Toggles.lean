/-!
# Feature switches

Two switches change how dependency-graph queries are answered. They may be
flipped while a program runs, so a query consults them when it needs them and
may get another answer the next time.
-/

namespace Rollup

/-- The position of both switches at one moment. -/
structure Switches where
  /-- A dependency-graph composite waits for every unfinished entry. -/
  legacyBlocking : Bool
  /-- A dependency-graph query also waits for the stages before each named job. -/
  dependencyTree : Bool
  deriving DecidableEq, Repr

/-- Switches read one consultation after the other. -/
structure Toggles where
  /-- What the consultation of the given number finds. -/
  answers : Nat → Switches
  /-- How many consultations there have been. -/
  consulted : Nat

namespace Toggles

def fixed (switches : Switches) : Toggles :=
  ⟨fun _ => switches, 0⟩

/-- What the next consultation will find. -/
def current (toggles : Toggles) : Switches :=
  toggles.answers toggles.consulted

/-- The switches after one more consultation. -/
def advance (toggles : Toggles) : Toggles :=
  { toggles with consulted := toggles.consulted + 1 }

@[simp] theorem current_fixed (switches : Switches) :
    (fixed switches).current = switches := rfl

end Toggles

end Rollup
