import Rollup.Table
import Rollup.Toggles

/-!
# Composites

The composite of a list of entries is one status, with a marker for failures
that were tolerated on the way. Two disciplines differ in how they take
unfinished entries: under the stage discipline every entry counts, and in a
dependency graph an unfinished entry that is allowed to fail is left out.
-/

namespace Rollup

/-- How a composite takes unfinished entries. -/
inductive Discipline where
  /-- Jobs wait for whole stages. -/
  | stage
  /-- Jobs wait for the jobs they name. -/
  | dag
  deriving DecidableEq, Repr

namespace Discipline

/-- The discipline that holds when nothing is said. -/
instance : Inhabited Discipline := ⟨.stage⟩

def name : Discipline → String
  | .stage => "stage"
  | .dag => "dag"

/-- The discipline with a given written name. -/
def ofName? (text : String) : Option Discipline :=
  [stage, dag].find? fun discipline => discipline.name == text

@[simp] theorem ofName?_name (discipline : Discipline) :
    ofName? discipline.name = some discipline := by
  cases discipline <;> decide

/-- Whether an entry counts toward a composite of this discipline. -/
def counts : Discipline → Entry → Bool
  | .stage, _ => true
  | .dag, entry => entry.status.isCompleted || !entry.allowFailure

end Discipline

/-- A resolved status, and whether a tolerated failure went into it. -/
structure Composite where
  status : Status
  warnings : Bool
  deriving DecidableEq, Repr

namespace Table

/-- The composite of the entries' facets; without a matching rule, and so also
without entries, a success. -/
def compositeOfFacets (table : Table) (set : FacetSet) : Composite where
  status := (table.outcome? set).getD .success
  warnings := set.contains .successWithWarnings

/-- What a walk over entries has found so far. -/
structure Walk where
  /-- Whether an entry holds the whole composite up. -/
  blocked : Bool
  facets : FacetSet

/-- Take in one more entry. With `blocking` on, an unfinished entry holds the composite
up, even one that is left out of it. -/
def walk (table : Table) (discipline : Discipline) (blocking : Bool) (found : Walk)
    (entry : Entry) : Walk :=
  if entry.status.isCompleted then
    { found with facets := table.classify found.facets entry }
  else
    let found := { found with blocked := found.blocked || blocking }
    if discipline = .dag && entry.allowFailure then
      found
    else
      { found with facets := table.classify found.facets entry }

/-- The composite of a list of entries. A dependency graph that is held up is pending;
stages are never held up, whether `blocking` is on or not. -/
def composite (table : Table) (discipline : Discipline) (blocking : Bool)
    (entries : List Entry) : Composite :=
  let found := entries.foldl (table.walk discipline (discipline = .dag && blocking))
    ⟨false, .empty⟩
  if found.blocked then
    ⟨.pending, false⟩
  else
    table.compositeOfFacets found.facets

def stageComposite (table : Table) (entries : List Entry) : Composite :=
  table.composite .stage false entries

/-! ## What a walk finds -/

variable (table : Table) (discipline : Discipline) (blocking : Bool)

/-- One step of the walk: blocking is about unfinished entries, and what counts is
classified. -/
theorem walk_eq (found : Walk) (entry : Entry) :
    table.walk discipline blocking found entry =
      ⟨found.blocked || blocking && !entry.status.isCompleted,
        if discipline.counts entry then table.classify found.facets entry
        else found.facets⟩ := by
  obtain ⟨blocked, facets⟩ := found
  rw [walk]
  cases completed : entry.status.isCompleted with
  | true => cases discipline <;> simp [Discipline.counts, completed]
  | false =>
      cases discipline with
      | stage => simp [Discipline.counts]
      | dag =>
          cases tolerated : entry.allowFailure <;>
            simp [Discipline.counts, completed, tolerated]

theorem foldl_walk (entries : List Entry) (found : Walk) :
    entries.foldl (table.walk discipline blocking) found =
      ⟨found.blocked || blocking && entries.any (fun entry => !entry.status.isCompleted),
        (entries.filter discipline.counts).foldl table.classify found.facets⟩ := by
  -- The walk goes on from what it has found, so the induction is over any walk so far.
  induction entries generalizing found with
  | nil => simp
  | cons entry rest ih =>
      rw [List.foldl_cons, ih, walk_eq, List.any_cons, List.filter_cons]
      cases counts : discipline.counts entry <;>
        simp [Bool.or_assoc, Bool.and_or_distrib_left]

/-- With `blocking` on, any unfinished entry of a dependency graph makes the whole composite
pending.  Otherwise it is the composite of the facets of the entries that count. -/
theorem composite_eq (entries : List Entry) :
    table.composite discipline blocking entries =
      if discipline = .dag && blocking && entries.any (fun entry => !entry.status.isCompleted)
      then ⟨.pending, false⟩
      else table.compositeOfFacets (table.facets (entries.filter discipline.counts)) := by
  simp only [composite, foldl_walk, Bool.false_or, facets]

@[simp] theorem composite_stage (entries : List Entry) :
    table.composite .stage blocking entries =
      table.compositeOfFacets (table.facets entries) := by
  have everything : entries.filter (Discipline.counts .stage) = entries := by
    simp [List.filter_eq_self, Discipline.counts]
  simp [composite_eq, everything]

end Table

/-- A table together with the switches that resolution consults. -/
structure Resolver where
  table : Table
  toggles : Toggles

namespace Resolver

/-- The composite of a list of entries. The blocking switch is consulted only
where it can matter, under the dependency-graph discipline. -/
def composite (resolver : Resolver) (discipline : Discipline)
    (entries : List Entry) : Composite × Resolver :=
  match discipline with
  | .stage => (resolver.table.stageComposite entries, resolver)
  | .dag =>
      (resolver.table.composite .dag resolver.toggles.current.legacyBlocking entries,
        { resolver with toggles := resolver.toggles.advance })

def describe (resolver : Resolver) : String :=
  "CompositeResolver \x7b rules: " ++ toString resolver.table.rules.length
    ++ ", dag_legacy_blocking: " ++ toString resolver.toggles.current.legacyBlocking ++ " \x7d"

end Resolver

end Rollup
