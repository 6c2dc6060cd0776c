import Rollup.Proofs.Requests
import Rollup.Proofs.Standard

/-!
# Disciplines and the blocking switch

Whatever the table, a dependency graph resolves to what stages resolve to, of the entries
without the unfinished ones that may fail.  With the blocking switch on, it does so only
once every entry is completed, and is pending before.  So the switch can withhold a
composite, but it never turns one into another.
-/

namespace Rollup

/-- The switches with the blocking one turned on, whenever they are consulted. -/
def Toggles.blocking (toggles : Toggles) : Toggles :=
  { toggles with
    answers := fun number => { toggles.answers number with legacyBlocking := true } }

namespace Table

variable (table : Table) {entries : List Entry}

/-- Without entries there is a success, and no warning. -/
theorem stageComposite_nil : table.stageComposite [] = ⟨.success, false⟩ := by
  have vacant : FacetSet.empty.isEmpty = true := rfl
  simp [stageComposite, facets, compositeOfFacets, outcome?, vacant]

/-- What a dependency graph resolves where nothing holds it up. -/
theorem composite_dag_eq_stage {blocking : Bool} (unblocked : Unblocked blocking entries) :
    table.composite .dag blocking entries =
      table.stageComposite
        (entries.filter fun entry => !(entry.allowFailure && !entry.status.isCompleted)) := by
  have counted : Discipline.counts .dag =
      fun entry => !(entry.allowFailure && !entry.status.isCompleted) := by
    funext entry
    rw [Discipline.counts, Bool.not_and, Bool.not_not, Bool.or_comm]
  rw [composite_dag_unblocked table unblocked, counted, stageComposite, composite_stage]

theorem composite_of_completed (completed : ∀ entry ∈ entries, entry.status.isCompleted = true)
    (discipline : Discipline) (blocking : Bool) :
    table.composite discipline blocking entries = table.stageComposite entries := by
  cases discipline with
  | stage => rw [stageComposite, composite_stage, composite_stage]
  | dag =>
      have everything :
          entries.filter (fun entry => !(entry.allowFailure && !entry.status.isCompleted)) =
            entries := by
        apply List.filter_eq_self.mpr
        intro entry member
        rw [completed entry member, Bool.not_true, Bool.and_false, Bool.not_false]
      rw [composite_dag_eq_stage table fun _ => completed, everything]

/-- Blocking withholds a composite or leaves it as it is. -/
theorem composite_blocking (discipline : Discipline) (blocking : Bool) (entries : List Entry) :
    table.composite discipline true entries = table.composite discipline blocking entries ∨
      table.composite discipline true entries = ⟨.pending, false⟩ := by
  cases discipline with
  | stage =>
      left
      rw [composite_stage, composite_stage]
  | dag =>
      by_cases completed : ∀ entry ∈ entries, entry.status.isCompleted = true
      · left
        rw [composite_of_completed table completed, composite_of_completed table completed]
      · right
        exact composite_dag_blocked table fun unblocked => completed (unblocked rfl)

end Table

/-! ## Named jobs -/

/-- The blocking switch does not decide which entries a query about named jobs resolves. -/
theorem Roster.forNames_blocking (roster : Roster) (names : List String)
    (discipline : Discipline) :
    let resolver := { roster.resolver with toggles := roster.resolver.toggles.blocking }
    (({ roster with resolver } : Roster).forNames names discipline).1 =
        (roster.forNames names discipline).1 ∨
      (({ roster with resolver } : Roster).forNames names discipline).1 = .pending := by
  intro resolver
  cases discipline with
  | stage => exact .inl rfl
  | dag =>
      have withheld := roster.resolver.table.composite_blocking .dag
        roster.consulted.switches.legacyBlocking
        (roster.dependencyEntries roster.switches.dependencyTree names)
      exact withheld.imp (congrArg Composite.status) (congrArg Composite.status)

namespace Ledger

/-- A question is answered from the rows, if they are there. -/
theorem query_eq_map {α : Type} (ledger : Ledger) (scan : Roster → α × Roster) :
    (ledger.query scan).1 = ledger.load.1.map fun roster => (scan roster).1 := by
  rw [query]
  split
  · rename_i roster after loads
    rw [loads]
    rfl
  · rename_i failure after loads
    rw [loads]
    rfl

/-- What resolves composites does not decide whether the rows are there, and which. -/
theorem load_resolver (ledger : Ledger) :
    (∃ failure, ∀ resolver, ({ ledger with resolver } : Ledger).load.1 = .error failure) ∨
      ∃ rows, ∀ resolver, ({ ledger with resolver } : Ledger).load.1 = .ok ⟨rows, resolver⟩ := by
  obtain ⟨pipeline, source, fetches, state, _⟩ := ledger
  cases state with
  | some outcome =>
      cases outcome with
      | ok rows => exact .inr ⟨rows, fun _ => rfl⟩
      | error cause => exact .inl ⟨.unavailable cause, fun _ => rfl⟩
  | none =>
      simp only [load]
      cases source.fetch fetches pipeline with
      | rows given => exact .inr ⟨sortByPosition given, fun _ => rfl⟩
      | fault fault => exact .inl ⟨.unavailable ⟨pipeline, fault.message⟩, fun _ => rfl⟩
      | crashed text => exact .inl ⟨.crashed text, fun _ => rfl⟩

end Ledger

namespace Board.Sound

variable {board : Board} (sound : board.Sound) (names : List String) (discipline : Discipline)

include sound

theorem forNames_withToggles (toggles : Toggles) :
    ((board.withToggles toggles).forNames names discipline).1 =
      ({ board.ledger with resolver := { board.resolver with toggles } } : Ledger).load.1.map
        fun roster => (roster.forNames names discipline).1 := by
  have agrees := query_agrees (Loaded.forNames_refines names discipline)
    (sound.withToggles toggles)
  exact agrees.answer.trans (Ledger.query_eq_map _ _)

theorem forNames_blocking :
    let blocked := board.withToggles board.resolver.toggles.blocking
    (blocked.forNames names discipline).1 = (board.forNames names discipline).1 ∨
      (blocked.forNames names discipline).1 = .ok .pending := by
  intro blocked
  -- The board as it is, is the one with its own switches.
  have before := sound.forNames_withToggles names discipline board.resolver.toggles
  have after := sound.forNames_withToggles names discipline board.resolver.toggles.blocking
  obtain ⟨failure, loads⟩ | ⟨rows, loads⟩ := board.ledger.load_resolver
  · rw [loads] at before after
    exact .inl (after.trans before.symm)
  · rw [loads] at before after
    have withheld := Roster.forNames_blocking ⟨rows, board.resolver⟩ names discipline
    refine withheld.imp (fun same => ?_) (fun pending => ?_)
    · exact after.trans ((congrArg Except.ok same).trans before.symm)
    · exact after.trans (congrArg Except.ok pending)

end Board.Sound

/-- Whatever the table, a dependency graph with the blocking switch off resolves to what
stages resolve to, of the entries without the unfinished ones that may fail.  With the switch
on it is pending while any entry is unfinished, and resolves as stages do afterwards.  So
neither matters to completed entries, and turning the switch on leaves a composite as it is
or makes it pending, that of named jobs on any board included. -/
theorem Resolver.composite_disciplines (resolver : Resolver) (entries : List Entry) :
    let stage := fun entries => (resolver.composite .stage entries).1
    let dag := (resolver.composite .dag entries).1
    let counted :=
      entries.filter fun entry => !(entry.allowFailure && !entry.status.isCompleted)
    let blocked : Resolver := { resolver with toggles := resolver.toggles.blocking }
    (resolver.toggles.current.legacyBlocking = false → dag = stage counted) ∧
      stage [] = ⟨.success, false⟩ ∧
      (resolver.toggles.current.legacyBlocking = true →
        ((∃ entry ∈ entries, entry.status.isCompleted = false) → dag = ⟨.pending, false⟩) ∧
        ((∀ entry ∈ entries, entry.status.isCompleted = true) → dag = stage entries)) ∧
      ((∀ entry ∈ entries, entry.status.isCompleted = true) → ∀ discipline toggles,
        (({ resolver with toggles } : Resolver).composite discipline entries).1 =
          stage entries) ∧
      (∀ discipline,
        (blocked.composite discipline entries).1 = (resolver.composite discipline entries).1 ∨
          (blocked.composite discipline entries).1 = ⟨.pending, false⟩) ∧
      ∀ board : Board, board.Reached → ∀ names discipline,
        let blocked := board.withToggles board.resolver.toggles.blocking
        (blocked.forNames names discipline).1 = (board.forNames names discipline).1 ∨
          (blocked.forNames names discipline).1 = .ok .pending := by
  intro stage dag counted blocked
  refine ⟨?off, resolver.table.stageComposite_nil, ?on, ?completed, ?withheld,
    fun board reached => reached.sound.forNames_blocking⟩
  case off =>
    intro off
    exact resolver.table.composite_dag_eq_stage (by simp [Table.Unblocked, off])
  case on =>
    intro on
    constructor
    · rintro ⟨entry, member, unfinished⟩
      apply resolver.table.composite_dag_blocked
      intro unblocked
      exact Bool.false_ne_true (unfinished.symm.trans (unblocked on entry member))
    · exact fun completed => resolver.table.composite_of_completed completed .dag _
  case completed =>
    intro completed discipline toggles
    cases discipline with
    | stage => rfl
    | dag => exact resolver.table.composite_of_completed completed .dag _
  case withheld =>
    intro discipline
    cases discipline with
    | stage => exact .inl rfl
    | dag => exact resolver.table.composite_blocking .dag _ entries

/-- An unfinished entry that may fail is left out, and so does not keep the others from
failing, until the switch makes it hold them up. -/
example :
    let resolver : Switches → Resolver := fun switches => ⟨.standard, .fixed switches⟩
    let entries : List Entry := [.optional .running, .required .failed]
    ((resolver ⟨false, true⟩).composite .dag entries).1 = ⟨.failed, false⟩ ∧
      ((resolver ⟨true, true⟩).composite .dag entries).1 = ⟨.pending, false⟩ ∧
      ((resolver ⟨true, true⟩).composite .stage entries).1 = ⟨.running, false⟩ := by
  decide

end Rollup
