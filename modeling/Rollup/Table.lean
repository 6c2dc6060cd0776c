import Rollup.Facet

/-!
# Priority tables

A composite is found in two steps. Each entry contributes facets to a set, and
the outcome of the first rule whose condition holds of that set is the answer.
The rules are data, so that the order of precedence can be read and replaced.
-/

namespace Rollup

/-- When a rule applies to a set of facets. -/
inductive Condition where
  /-- The set has members, all among the given ones. -/
  | onlyOf (allowed : FacetSet)
  /-- The set has one of the given members. -/
  | anyOf (wanted : FacetSet)
  /-- In every case. -/
  | always
  deriving DecidableEq, Repr

def Condition.holds : Condition → FacetSet → Bool
  | .onlyOf allowed, set => set.onlyOf allowed
  | .anyOf wanted, set => set.anyOf wanted
  | .always, _ => true

structure Rule where
  condition : Condition
  outcome : Status
  deriving DecidableEq, Repr

namespace Rule

/-- A rule for sets that hold the listed facets only. -/
def onlyOf (allowed : List Facet) (outcome : Status) : Rule :=
  ⟨.onlyOf (.ofList allowed), outcome⟩

/-- A rule for sets that hold one of the listed facets. -/
def anyOf (wanted : List Facet) (outcome : Status) : Rule :=
  ⟨.anyOf (.ofList wanted), outcome⟩

def always (outcome : Status) : Rule :=
  ⟨.always, outcome⟩

end Rule

/-- Rules in order of precedence, and what becomes of tolerated failures. -/
structure Table where
  rules : List Rule
  /-- An entry that is allowed to fail and has one of these statuses does not
  count. -/
  ignorable : FacetSet
  /-- An entry that is allowed to fail and has one of these statuses counts as a
  success with warnings. This goes before `ignorable`. -/
  warning : FacetSet
  deriving DecidableEq, Repr

namespace Table

def standardRules : List Rule :=
  [ .onlyOf [.skipped, .ignored] .skipped,
    .onlyOf [.success, .skipped, .successWithWarnings, .ignored] .success,
    .onlyOf [.created, .successWithWarnings, .ignored] .created,
    .onlyOf [.preparing, .successWithWarnings, .ignored] .preparing,
    .onlyOf [.canceled, .success, .skipped, .successWithWarnings, .ignored] .canceled,
    .onlyOf [.pending, .created, .skipped, .successWithWarnings, .ignored] .pending,
    .anyOf [.running, .pending] .running,
    .anyOf [.waitingForResource] .waitingForResource,
    .anyOf [.manual] .manual,
    .anyOf [.scheduled] .scheduled,
    .anyOf [.preparing] .preparing,
    .anyOf [.created] .running,
    .always .failed ]

/-- The given rules with the standard treatment of tolerated failures. -/
def ofRules (rules : List Rule) : Table where
  rules := rules
  ignorable := .ofStatuses [.manual, .failed, .canceled]
  warning := .ofStatuses [.failed, .canceled]

def standard : Table :=
  ofRules standardRules

/-- The table with other statuses that do not count. -/
def withIgnorable (table : Table) (statuses : List Status) : Table :=
  { table with ignorable := .ofStatuses statuses }

/-- The table with other statuses that leave a warning. -/
def withWarning (table : Table) (statuses : List Status) : Table :=
  { table with warning := .ofStatuses statuses }

/-- Whether an entry is a tolerated failure that cannot hold anything up. -/
def ignores (table : Table) (entry : Entry) : Bool :=
  entry.allowFailure && table.ignorable.containsStatus entry.status

/-- Whether an entry is a tolerated failure that leaves a warning. -/
def warns (table : Table) (entry : Entry) : Bool :=
  entry.allowFailure && table.warning.containsStatus entry.status

/-- Add what one entry contributes. -/
def classify (table : Table) (set : FacetSet) (entry : Entry) : FacetSet :=
  if table.warns entry then
    (set.insert .success).insert .successWithWarnings
  else if table.ignores entry then
    set.insert .ignored
  else
    set.insert (.ofStatus entry.status)

/-- What a list of entries contributes. -/
def facets (table : Table) (entries : List Entry) : FacetSet :=
  entries.foldl table.classify .empty

/-- The outcome of the first rule that holds of the set. No rule holds of the
empty set, not even one that always applies. -/
def outcome? (table : Table) (set : FacetSet) : Option Status :=
  if set.isEmpty then
    none
  else
    (table.rules.find? fun rule => rule.condition.holds set).map Rule.outcome

end Table

end Rollup
