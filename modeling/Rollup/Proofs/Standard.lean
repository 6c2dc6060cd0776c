import Rollup.Proofs.FacetSets

/-!
# The standard table

The thirteen standard rules as one chain of decisions on the facets, and what follows
from it: which lists of entries have a composite that is success or skipped, and which
have one that is completed.
-/

namespace Rollup

namespace Table

/-- The outcome of the first rule that holds, rule by rule. -/
theorem firstOutcome_cons (rule : Rule) (rest : List Rule) (set : FacetSet) :
    (((rule :: rest).find? fun rule => rule.condition.holds set).map Rule.outcome) =
      if rule.condition.holds set = true then some rule.outcome
      else (rest.find? fun rule => rule.condition.holds set).map Rule.outcome := by
  rw [List.find?_cons]
  cases rule.condition.holds set <;> rfl

/-- The first standard rule that holds of a set with members. -/
theorem standard_status {set : FacetSet} (occupied : ∃ facet, set.contains facet = true) :
    (standard.compositeOfFacets set).status =
      if set.Within [.skipped, .ignored] then .skipped
      else if set.Within [.success, .skipped, .successWithWarnings, .ignored] then .success
      else if set.Within [.created, .successWithWarnings, .ignored] then .created
      else if set.Within [.preparing, .successWithWarnings, .ignored] then .preparing
      else if set.Within [.canceled, .success, .skipped, .successWithWarnings, .ignored] then
        .canceled
      else if set.Within [.pending, .created, .skipped, .successWithWarnings, .ignored] then
        .pending
      else if set.Meets [.running, .pending] then .running
      else if set.Meets [.waitingForResource] then .waitingForResource
      else if set.Meets [.manual] then .manual
      else if set.Meets [.scheduled] then .scheduled
      else if set.Meets [.preparing] then .preparing
      else if set.Meets [.created] then .running
      else .failed := by
  have nonempty := FacetSet.isEmpty_eq_false.mpr occupied
  have only : ∀ facets outcome, (Rule.onlyOf facets outcome).condition.holds set = true ↔
      set.Within facets := by
    intro facets outcome
    rw [Rule.onlyOf_holds]
    exact and_iff_right occupied
  have last : ∀ outcome, (Rule.always outcome).condition.holds set = true := fun _ => rfl
  simp only [compositeOfFacets, outcome?, nonempty, standard, ofRules, standardRules,
    firstOutcome_cons, only, Rule.anyOf_holds, last, if_true, Bool.false_eq_true, if_false,
    apply_ite (Option.getD · Status.success), Option.getD_some]
  rfl

/-- The facets that hold nobody up. -/
def passing : List Facet :=
  [.success, .skipped, .successWithWarnings, .ignored]

/-- The facets of what is done. -/
def settled : List Facet :=
  [.success, .failed, .canceled, .skipped, .successWithWarnings, .ignored]

/-- What meets no facet of anything unfinished is settled. -/
theorem within_settled {set : FacetSet} (notActive : ¬ set.Meets [.running, .pending])
    (notWaiting : ¬ set.Meets [.waitingForResource]) (notManual : ¬ set.Meets [.manual])
    (notScheduled : ¬ set.Meets [.scheduled]) (notPreparing : ¬ set.Meets [.preparing])
    (notCreated : ¬ set.Meets [.created]) : set.Within settled := by
  intro facet member
  have outside : ∀ facets, ¬ set.Meets facets → facet ∉ facets :=
    fun facets apart among => apart ⟨facet, among, member⟩
  have unmet := And.intro (outside _ notActive) (And.intro (outside _ notWaiting)
    (And.intro (outside _ notManual) (And.intro (outside _ notScheduled)
      (And.intro (outside _ notPreparing) (outside _ notCreated)))))
  revert unmet
  cases facet <;> decide

/-- To show something of the composite it is enough to show it of each outcome, from
the condition of its rule. -/
theorem standard_cases {motive : Status → Prop} {set : FacetSet}
    (occupied : ∃ facet, set.contains facet = true)
    (skipped : set.Within [.skipped, .ignored] → motive .skipped)
    (success : set.Within passing → motive .success)
    (created : ¬ set.Within passing →
      set.Within [.created, .successWithWarnings, .ignored] → motive .created)
    (preparing : ¬ set.Within passing →
      set.Within [.preparing, .successWithWarnings, .ignored] → motive .preparing)
    (canceled : ¬ set.Within passing →
      set.Within [.canceled, .success, .skipped, .successWithWarnings, .ignored] →
      motive .canceled)
    (pending : ¬ set.Within passing →
      set.Within [.pending, .created, .skipped, .successWithWarnings, .ignored] →
      motive .pending)
    (active : set.Meets [.running, .pending] → motive .running)
    (waiting : set.Meets [.waitingForResource] → motive .waitingForResource)
    (manual : set.Meets [.manual] → motive .manual)
    (scheduled : set.Meets [.scheduled] → motive .scheduled)
    (prepared : set.Meets [.preparing] → motive .preparing)
    (started : set.Meets [.created] → motive .running)
    (failed : ¬ set.Within passing → set.Within settled → motive .failed) :
    motive (standard.compositeOfFacets set).status := by
  rw [standard_status occupied]
  refine iteInduction skipped fun _ => ?_
  refine iteInduction success fun notPassing => ?_
  refine iteInduction (created notPassing) fun _ => ?_
  refine iteInduction (preparing notPassing) fun _ => ?_
  refine iteInduction (canceled notPassing) fun _ => ?_
  refine iteInduction (pending notPassing) fun _ => ?_
  refine iteInduction active fun notActive => ?_
  refine iteInduction waiting fun notWaiting => ?_
  refine iteInduction manual fun notManual => ?_
  refine iteInduction scheduled fun notScheduled => ?_
  refine iteInduction prepared fun notPreparing => ?_
  refine iteInduction started fun notCreated => ?_
  exact failed notPassing
    (within_settled notActive notWaiting notManual notScheduled notPreparing notCreated)

/-- Nothing makes a success. -/
theorem status_of_no_facets {table : Table} {set : FacetSet}
    (vacant : ¬ ∃ facet, set.contains facet = true) :
    (table.compositeOfFacets set).status = .success := by
  have isEmpty : set.isEmpty = true := by
    rw [FacetSet.isEmpty_eq_true]
    simpa using vacant
  simp [compositeOfFacets, outcome?, isEmpty]

/-- The composite passes if and only if every facet does. -/
theorem standard_passes {set : FacetSet} :
    (standard.compositeOfFacets set).status ∈ [.success, .skipped] ↔ set.Within passing := by
  by_cases occupied : ∃ facet, set.contains facet = true
  · apply standard_cases (motive := fun status => status ∈ _ ↔ _) occupied
    case skipped => exact fun within => iff_of_true (by decide) (within.mono (by decide))
    case success => exact fun within => iff_of_true (by decide) within
    case created => exact fun other _ => iff_of_false (by decide) other
    case preparing => exact fun other _ => iff_of_false (by decide) other
    case canceled => exact fun other _ => iff_of_false (by decide) other
    case pending => exact fun other _ => iff_of_false (by decide) other
    case failed => exact fun other _ => iff_of_false (by decide) other
    all_goals exact fun meets => iff_of_false (by decide) (meets.not_within (by decide))
  · rw [status_of_no_facets occupied]
    exact iff_of_true (by decide) fun facet member => absurd ⟨facet, member⟩ occupied

/-- Facets that a rule for unfinished ones allows and that are settled are passing. -/
theorem not_within_settled {set : FacetSet} {allowed : List Facet}
    (notPassing : ¬ set.Within passing) (within : set.Within allowed)
    (common : ∀ facet ∈ Facet.all, facet ∈ allowed → facet ∈ settled → facet ∈ passing) :
    ¬ set.Within settled :=
  fun inSettled => notPassing (within.common inSettled common)

/-- The composite is completed if and only if every facet is of something done. -/
theorem standard_completed {set : FacetSet} :
    (standard.compositeOfFacets set).status.isCompleted = true ↔ set.Within settled := by
  by_cases occupied : ∃ facet, set.contains facet = true
  · apply standard_cases (motive := fun status => status.isCompleted = true ↔ _) occupied
    case skipped => exact fun within => iff_of_true rfl (within.mono (by decide))
    case success => exact fun within => iff_of_true rfl (within.mono (by decide))
    case canceled => exact fun _ within => iff_of_true rfl (within.mono (by decide))
    case failed => exact fun _ within => iff_of_true rfl within
    case created =>
      intro other within
      exact iff_of_false (by decide) (not_within_settled other within (by decide))
    case preparing =>
      intro other within
      exact iff_of_false (by decide) (not_within_settled other within (by decide))
    case pending =>
      intro other within
      exact iff_of_false (by decide) (not_within_settled other within (by decide))
    all_goals exact fun meets => iff_of_false (by decide) (meets.not_within (by decide))
  · rw [status_of_no_facets occupied]
    exact iff_of_true rfl fun facet member => absurd ⟨facet, member⟩ occupied

end Table

/-! ## Entries -/

namespace Entry

/-- The job may fail, and it failed, was canceled or waits for a person. -/
def Tolerated (entry : Entry) : Prop :=
  entry.allowFailure = true ∧ entry.status ∈ [.manual, .failed, .canceled]

/-- The job went well, was left out, or is tolerated as it is. -/
def Passes (entry : Entry) : Prop :=
  entry.status = .success ∨ entry.status = .skipped ∨ entry.Tolerated

/-- The job is done, or waits for a person and is allowed to fail. -/
def Settled (entry : Entry) : Prop :=
  entry.status.isCompleted = true ∨ entry.allowFailure = true ∧ entry.status = .manual

instance (entry : Entry) : Decidable entry.Tolerated :=
  inferInstanceAs (Decidable (_ ∧ _))

instance (entry : Entry) : Decidable entry.Passes :=
  inferInstanceAs (Decidable (_ ∨ _))

instance (entry : Entry) : Decidable entry.Settled :=
  inferInstanceAs (Decidable (_ ∨ _))

theorem facetsOf_subset_passing {entry : Entry} :
    Table.standard.facetsOf entry ⊆ Table.passing ↔ entry.Passes := by
  obtain ⟨status, allowFailure⟩ := entry
  cases status <;> cases allowFailure <;> decide

theorem facetsOf_subset_settled {entry : Entry} :
    Table.standard.facetsOf entry ⊆ Table.settled ↔ entry.Settled := by
  obtain ⟨status, allowFailure⟩ := entry
  cases status <;> cases allowFailure <;> decide

end Entry

namespace Table

variable {entries : List Entry}

theorem standard_stage_passes :
    (standard.stageComposite entries).status ∈ [.success, .skipped] ↔
      ∀ entry ∈ entries, entry.Passes := by
  rw [stageComposite, composite_stage, standard_passes, within_facets]
  simp only [Entry.facetsOf_subset_passing]

theorem standard_stage_completed :
    (standard.stageComposite entries).status.isCompleted = true ↔
      ∀ entry ∈ entries, entry.Settled := by
  rw [stageComposite, composite_stage, standard_completed, within_facets]
  simp only [Entry.facetsOf_subset_settled]

/-- Whether the blocking switch lets a dependency graph pass at all. -/
def Unblocked (blocking : Bool) (entries : List Entry) : Prop :=
  blocking = true → ∀ entry ∈ entries, entry.status.isCompleted = true

theorem composite_dag_blocked (table : Table) {blocking : Bool}
    (blocked : ¬ Unblocked blocking entries) :
    table.composite .dag blocking entries = ⟨.pending, false⟩ := by
  rw [composite_eq, if_pos]
  simpa [Unblocked] using blocked

theorem composite_dag_unblocked (table : Table) {blocking : Bool}
    (unblocked : Unblocked blocking entries) :
    table.composite .dag blocking entries =
      table.compositeOfFacets (table.facets (entries.filter (Discipline.counts .dag))) := by
  rw [composite_eq, if_neg]
  simpa [Unblocked] using unblocked

theorem passes_of_counts {entry : Entry} :
    (Discipline.counts .dag entry = true → entry.Passes) ↔
      entry.status ∈ [.success, .skipped] ∨ entry.allowFailure = true := by
  obtain ⟨status, allowFailure⟩ := entry
  cases status <;> cases allowFailure <;> decide

theorem settled_of_counts {entry : Entry} :
    (Discipline.counts .dag entry = true → entry.Settled) ↔
      entry.status.isCompleted = true ∨ entry.allowFailure = true := by
  obtain ⟨status, allowFailure⟩ := entry
  cases status <;> cases allowFailure <;> decide

/-- In a dependency graph an unfinished entry that may fail is left out, unless the
blocking switch is on. -/
theorem standard_dag_passes {blocking : Bool} :
    (standard.composite .dag blocking entries).status ∈ [.success, .skipped] ↔
      Unblocked blocking entries ∧
        ∀ entry ∈ entries,
          entry.status ∈ [.success, .skipped] ∨ entry.allowFailure = true := by
  by_cases unblocked : Unblocked blocking entries
  · rw [composite_dag_unblocked standard unblocked, standard_passes, within_facets]
    simp only [Entry.facetsOf_subset_passing, List.mem_filter, and_imp,
      passes_of_counts, unblocked, true_and]
  · rw [composite_dag_blocked standard unblocked]
    exact iff_of_false (by decide) fun passes => unblocked passes.1

theorem standard_dag_completed {blocking : Bool} :
    (standard.composite .dag blocking entries).status.isCompleted = true ↔
      Unblocked blocking entries ∧
        ∀ entry ∈ entries, entry.status.isCompleted = true ∨ entry.allowFailure = true := by
  by_cases unblocked : Unblocked blocking entries
  · rw [composite_dag_unblocked standard unblocked, standard_completed, within_facets]
    simp only [Entry.facetsOf_subset_settled, List.mem_filter, and_imp,
      settled_of_counts, unblocked, true_and]
  · rw [composite_dag_blocked standard unblocked]
    exact iff_of_false (by decide) fun completed => unblocked completed.1

end Table

end Rollup
