import Rollup.Proofs.Standard

/-!
# The standard composite in closed form

The standard rules speak of facets, and an entry contributes one of them or two.  Here
the composite is told from the entries themselves.  It falls into two halves, one for
entries that are all settled and one for entries of which one is not, and in each half
only a part of the rules can be the first that holds.
-/

namespace Rollup

/-- The job was allowed to fail and did not succeed, which leaves a warning. -/
def Entry.Warns (entry : Entry) : Prop :=
  entry.allowFailure = true ∧ entry.status ∈ [.failed, .canceled]

instance (entry : Entry) : Decidable entry.Warns :=
  inferInstanceAs (Decidable (_ ∧ _))

namespace Table

/-! ## The closed form -/

/-- What entries come to that are all settled. -/
def settledStatus (entries : List Entry) : Status :=
  if .required .failed ∈ entries then .failed
  else if .required .canceled ∈ entries then .canceled
  else if ∃ entry ∈ entries, entry.status = .success ∨ entry.Warns then .success
  else .skipped

/-- The entries without the jobs that wait for a person and are allowed to fail. -/
def counted (entries : List Entry) : List Entry :=
  entries.filter fun entry => entry ≠ .optional .manual

/-- What entries come to of which one is unsettled, told from those that count. -/
def unsettledStatus (entries : List Entry) : Status :=
  if ∀ entry ∈ entries, entry.status = .created then .created
  else if ∀ entry ∈ entries, entry.status = .preparing then .preparing
  else if ∀ entry ∈ entries, entry.status ∈ [.pending, .created, .skipped] then .pending
  else if ∃ entry ∈ entries, entry.status ∈ [.running, .pending] then .running
  else if ∃ entry ∈ entries, entry.status = .waitingForResource then .waitingForResource
  else if ∃ entry ∈ entries, entry.status = .manual then .manual
  else if ∃ entry ∈ entries, entry.status = .scheduled then .scheduled
  else if ∃ entry ∈ entries, entry.status = .preparing then .preparing
  else .running

/-- The composite of entries under the standard table, told from the entries. -/
def closedForm (entries : List Entry) : Composite where
  status :=
    if entries = [] then .success
    else if ∀ entry ∈ entries, entry.Settled then settledStatus entries
    else unsettledStatus (counted entries)
  warnings := decide (∃ entry ∈ entries, entry.Warns)

/-! ## The rules of each half -/

/-- Of settled facets only four rules can be the first that holds. -/
theorem standard_status_of_settled {set : FacetSet}
    (occupied : ∃ facet, set.contains facet = true) (isSettled : set.Within settled) :
    (standard.compositeOfFacets set).status =
      if set.Within [.skipped, .ignored] then .skipped
      else if set.Within passing then .success
      else if set.Within [.canceled, .success, .skipped, .successWithWarnings, .ignored] then
        .canceled
      else .failed := by
  have unmet : ∀ facets, (∀ facet ∈ facets, facet ∉ settled) → ¬ set.Meets facets :=
    fun facets apart meets => meets.not_within apart isSettled
  rw [standard_status occupied]
  refine ite_congr rfl (fun _ => rfl) fun _ => ?_
  refine ite_congr rfl (fun _ => rfl) fun notPassing => ?_
  have excluded : ∀ allowed : List Facet,
      (∀ facet ∈ Facet.all, facet ∈ allowed → facet ∈ settled → facet ∈ passing) →
        ¬ set.Within allowed :=
    fun allowed common within => not_within_settled notPassing within common isSettled
  rw [if_neg (excluded _ (by decide)), if_neg (excluded _ (by decide))]
  refine ite_congr rfl (fun _ => rfl) fun _ => ?_
  rw [if_neg (excluded _ (by decide)), if_neg (unmet _ (by decide)),
    if_neg (unmet _ (by decide)), if_neg (unmet _ (by decide)), if_neg (unmet _ (by decide)),
    if_neg (unmet _ (by decide)), if_neg (unmet _ (by decide))]

/-- Where a facet is unsettled, no rule for settled facets holds and the last rule is not
reached. -/
theorem standard_status_of_unsettled {set : FacetSet} (unsettled : ¬ set.Within settled) :
    (standard.compositeOfFacets set).status =
      if set.Within [.created, .successWithWarnings, .ignored] then .created
      else if set.Within [.preparing, .successWithWarnings, .ignored] then .preparing
      else if set.Within [.pending, .created, .skipped, .successWithWarnings, .ignored] then
        .pending
      else if set.Meets [.running, .pending] then .running
      else if set.Meets [.waitingForResource] then .waitingForResource
      else if set.Meets [.manual] then .manual
      else if set.Meets [.scheduled] then .scheduled
      else if set.Meets [.preparing] then .preparing
      else .running := by
  have occupied : ∃ facet, set.contains facet = true := by
    apply Classical.byContradiction
    intro vacant
    apply unsettled
    intro facet member
    exact absurd ⟨facet, member⟩ vacant
  have excluded : ∀ {facets : List Facet}, facets ⊆ settled → ¬ set.Within facets :=
    fun subset within => unsettled (within.mono subset)
  rw [standard_status occupied, if_neg (excluded (by decide)), if_neg (excluded (by decide))]
  refine ite_congr rfl (fun _ => rfl) fun _ => ?_
  refine ite_congr rfl (fun _ => rfl) fun _ => ?_
  rw [if_neg (excluded (by decide))]
  refine ite_congr rfl (fun _ => rfl) fun _ => ?_
  refine ite_congr rfl (fun _ => rfl) fun notActive => ?_
  refine ite_congr rfl (fun _ => rfl) fun notWaiting => ?_
  refine ite_congr rfl (fun _ => rfl) fun notManual => ?_
  refine ite_congr rfl (fun _ => rfl) fun notScheduled => ?_
  refine ite_congr rfl (fun _ => rfl) fun notPreparing => ?_
  apply if_pos
  apply Decidable.byContradiction
  intro notCreated
  exact unsettled
    (within_settled notActive notWaiting notManual notScheduled notPreparing notCreated)

/-! ## Settled entries -/

variable {entries : List Entry}

/-- The facets of entries of some kind are within some facets if and only if every entry
is as it must be for that. -/
theorem within_facets_iff {kind fits : Entry → Prop} {facets : List Facet}
    (each : ∀ entry, kind entry → (standard.facetsOf entry ⊆ facets ↔ fits entry))
    (all : ∀ entry ∈ entries, kind entry) :
    (standard.facets entries).Within facets ↔ ∀ entry ∈ entries, fits entry := by
  rw [within_facets]
  constructor
  · intro within entry member
    exact (each entry (all entry member)).mp (within entry member)
  · intro fit entry member
    exact (each entry (all entry member)).mpr (fit entry member)

/-- Which of the four rules holds of settled entries is a matter of three kinds of entries
that occur among them. -/
theorem status_of_settled (nonempty : entries ≠ [])
    (allSettled : ∀ entry ∈ entries, entry.Settled) :
    (standard.stageComposite entries).status = settledStatus entries := by
  have isSettled : (standard.facets entries).Within settled := by
    rw [within_facets]
    intro entry member
    exact Entry.facetsOf_subset_settled.mpr (allSettled entry member)
  have canceled : (standard.facets entries).Within
      [.canceled, .success, .skipped, .successWithWarnings, .ignored] ↔
        ∀ entry ∈ entries, entry ≠ .required .failed := by
    apply within_facets_iff _ allSettled
    rintro ⟨status, allowFailure⟩
    cases status <;> cases allowFailure <;> decide
  have success : (standard.facets entries).Within passing ↔
      ∀ entry ∈ entries, entry ≠ .required .failed ∧ entry ≠ .required .canceled := by
    apply within_facets_iff _ allSettled
    rintro ⟨status, allowFailure⟩
    cases status <;> cases allowFailure <;> decide
  have skipped : (standard.facets entries).Within [.skipped, .ignored] ↔
      ∀ entry ∈ entries, entry ≠ .required .failed ∧ entry ≠ .required .canceled ∧
        ¬ (entry.status = .success ∨ entry.Warns) := by
    apply within_facets_iff _ allSettled
    rintro ⟨status, allowFailure⟩
    cases status <;> cases allowFailure <;> decide
  simp only [forall_and, List.forall_mem_ne'] at canceled success skipped
  rw [stageComposite, composite_stage,
    standard_status_of_settled (occupied_of_ne_nil nonempty) isSettled, settledStatus]
  simp only [skipped, success, canceled]
  by_cases hasFailed : .required .failed ∈ entries
  · simp [hasFailed]
  · by_cases hasCanceled : .required .canceled ∈ entries
    · simp [hasFailed, hasCanceled]
    · by_cases hasSuccess : ∃ entry ∈ entries, entry.status = .success ∨ entry.Warns
      · have notEach : ¬ ∀ entry ∈ entries, ¬ (entry.status = .success ∨ entry.Warns) := by
          obtain ⟨entry, member, succeeded⟩ := hasSuccess
          exact fun none => none entry member succeeded
        simp only [hasFailed, hasCanceled, hasSuccess, notEach, not_false_eq_true, and_false,
          and_self, if_true, if_false]
      · have each : ∀ entry ∈ entries, ¬ (entry.status = .success ∨ entry.Warns) :=
          fun entry member succeeded => hasSuccess ⟨entry, member, succeeded⟩
        simp only [hasFailed, hasCanceled, hasSuccess, not_false_eq_true, true_and, if_false]
        exact if_pos each

/-! ## Unsettled entries -/

/-- The facets that a rule for unfinished entries allows are those of the counted entries
in some statuses, for the others contribute what every such rule allows. -/
theorem within_facets_counted (fits : Status → Prop) {facets : List Facet}
    (each : ∀ entry, standard.facetsOf entry ⊆ facets ↔
      (entry ≠ .optional .manual → fits entry.status)) :
    (standard.facets entries).Within facets ↔
      ∀ entry ∈ counted entries, fits entry.status := by
  rw [within_facets]
  simp only [counted, List.mem_filter, decide_eq_true_eq, and_imp, each]

theorem meets_facets_counted (fits : Status → Prop) {facets : List Facet}
    (each : ∀ entry, (∃ facet ∈ facets, facet ∈ standard.facetsOf entry) ↔
      (entry ≠ .optional .manual ∧ fits entry.status)) :
    (standard.facets entries).Meets facets ↔
      ∃ entry ∈ counted entries, fits entry.status := by
  simp only [counted, List.mem_filter, decide_eq_true_eq, and_assoc, ← each]
  constructor
  · rintro ⟨facet, among, member⟩
    obtain ⟨entry, entryMember, contributed⟩ := contains_facets.mp member
    exact ⟨entry, entryMember, facet, among, contributed⟩
  · rintro ⟨entry, entryMember, facet, among, contributed⟩
    exact ⟨facet, among, contains_facets.mpr ⟨entry, entryMember, contributed⟩⟩

/-- An unfinished status is met where a counted entry has it. -/
theorem meets_facet_counted {status : Status} (unfinished : status.isCompleted = false) :
    (standard.facets entries).Meets [.ofStatus status] ↔
      ∃ entry ∈ counted entries, entry.status = status := by
  apply meets_facets_counted (· = status)
  rintro ⟨other, allowFailure⟩
  revert unfinished
  cases status <;> cases other <;> cases allowFailure <;> decide

theorem status_of_unsettled (unsettled : ¬ ∀ entry ∈ entries, entry.Settled) :
    (standard.stageComposite entries).status = unsettledStatus (counted entries) := by
  have notSettled : ¬ (standard.facets entries).Within settled := by
    rw [within_facets]
    simpa only [Entry.facetsOf_subset_settled] using unsettled
  rw [stageComposite, composite_stage, standard_status_of_unsettled notSettled,
    unsettledStatus]
  refine ite_congr (propext ?_) (fun _ => rfl) fun _ => ?_
  · apply within_facets_counted (· = .created)
    rintro ⟨status, allowFailure⟩
    cases status <;> cases allowFailure <;> decide
  refine ite_congr (propext ?_) (fun _ => rfl) fun _ => ?_
  · apply within_facets_counted (· = .preparing)
    rintro ⟨status, allowFailure⟩
    cases status <;> cases allowFailure <;> decide
  refine ite_congr (propext ?_) (fun _ => rfl) fun _ => ?_
  · apply within_facets_counted (· ∈ [.pending, .created, .skipped])
    rintro ⟨status, allowFailure⟩
    cases status <;> cases allowFailure <;> decide
  refine ite_congr (propext ?_) (fun _ => rfl) fun _ => ?_
  · apply meets_facets_counted (· ∈ [.running, .pending])
    rintro ⟨status, allowFailure⟩
    cases status <;> cases allowFailure <;> decide
  simp only [← @meets_facet_counted entries .waitingForResource rfl,
    ← @meets_facet_counted entries .manual rfl,
    ← @meets_facet_counted entries .scheduled rfl,
    ← @meets_facet_counted entries .preparing rfl]
  rfl

/-! ## All entries -/

theorem standard_warnings :
    (standard.stageComposite entries).warnings = true ↔ ∃ entry ∈ entries, entry.Warns := by
  have each : ∀ entry : Entry,
      .successWithWarnings ∈ standard.facetsOf entry ↔ entry.Warns := by
    rintro ⟨status, allowFailure⟩
    cases status <;> cases allowFailure <;> decide
  rw [stageComposite, composite_stage, compositeOfFacets, contains_facets]
  simp only [each]

theorem standard_stageComposite (entries : List Entry) :
    standard.stageComposite entries = closedForm entries := by
  have warningsEq : (standard.stageComposite entries).warnings =
      decide (∃ entry ∈ entries, entry.Warns) := by
    rw [Bool.eq_iff_iff, decide_eq_true_eq]
    exact standard_warnings
  have statusEq : (standard.stageComposite entries).status = (closedForm entries).status := by
    rw [closedForm]
    by_cases isEmpty : entries = []
    · subst isEmpty
      rfl
    · rw [if_neg isEmpty]
      split
      · rename_i allSettled
        exact status_of_settled isEmpty allSettled
      · rename_i unsettled
        exact status_of_unsettled unsettled
  calc
    standard.stageComposite entries =
        ⟨(standard.stageComposite entries).status,
          (standard.stageComposite entries).warnings⟩ := rfl
    _ = closedForm entries := by rw [statusEq, warningsEq]; rfl

end Table

/-- Under the standard table and the stage discipline entries come to their closed form,
which is completed if and only if every entry is settled. -/
theorem Resolver.standard_composite_stage (toggles : Toggles) (entries : List Entry) :
    (Resolver.composite ⟨.standard, toggles⟩ .stage entries).1 = Table.closedForm entries ∧
      ((Table.closedForm entries).status.isCompleted = true ↔
        ∀ entry ∈ entries, entry.Settled) := by
  constructor
  · exact Table.standard_stageComposite entries
  · rw [← Table.standard_stageComposite]
    exact Table.standard_stage_completed

/-- A tolerated failure among created jobs is a success to the rules, so the jobs are
not merely created; one that waits for a person is nothing. -/
example :
    Table.standard.stageComposite [.required .created, .optional .manual] =
        ⟨.created, false⟩ ∧
      Table.standard.stageComposite [.required .created, .optional .failed] =
        ⟨.running, true⟩ := by
  decide

end Rollup
