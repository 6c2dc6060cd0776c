import Rollup.Proofs.Standard

/-!
# Absorption of tolerated failures

A facet that every rule overlooks beside another one can join a set that has this other
one, and the same rule is found.  The standard rules overlook warnings beside successes and
ignored entries beside anything.  So a tolerated failure is as good as a success, and
ignored entries can be anywhere in a list that has entries.
-/

namespace Rollup

/-- Whether a condition holds of a set with the companion just as it does after the added
facet has joined. -/
def Condition.overlooks (companion added : Facet) : Condition → Bool
  | .onlyOf allowed => !allowed.contains companion || allowed.contains added
  | .anyOf wanted => !wanted.contains added || wanted.contains companion
  | .always => true

theorem FacetSet.exists_contains_insert (set : FacetSet) (added : Facet) :
    ∃ facet, (set.insert added).contains facet = true := by
  refine ⟨added, ?_⟩
  simp

theorem Condition.holds_insert {condition : Condition} {companion added : Facet}
    (overlooks : condition.overlooks companion added = true) {set : FacetSet}
    (member : set.contains companion = true) :
    condition.holds (set.insert added) = condition.holds set := by
  rw [Bool.eq_iff_iff]
  cases condition with
  | onlyOf allowed =>
      have joins : allowed.contains companion = true → allowed.contains added = true := by
        simpa [Condition.overlooks, ← Bool.not_eq_true, ← Decidable.imp_iff_not_or]
          using overlooks
      rw [holds, holds, FacetSet.onlyOf_eq_true, FacetSet.onlyOf_eq_true]
      apply and_congr (iff_of_true (set.exists_contains_insert added) ⟨companion, member⟩)
      simp only [FacetSet.contains_insert, Bool.or_eq_true, decide_eq_true_eq]
      constructor
      · exact fun allow facet inside => allow facet (.inl inside)
      · rintro allow facet (inside | rfl)
        · exact allow facet inside
        · exact joins (allow companion member)
  | anyOf wanted =>
      have stands : wanted.contains added = true → wanted.contains companion = true := by
        simpa [Condition.overlooks, ← Bool.not_eq_true, ← Decidable.imp_iff_not_or]
          using overlooks
      rw [holds, holds, FacetSet.anyOf_eq_true, FacetSet.anyOf_eq_true]
      simp only [FacetSet.contains_insert, Bool.or_eq_true, decide_eq_true_eq]
      constructor
      · rintro ⟨facet, inside | rfl, among⟩
        · exact ⟨facet, inside, among⟩
        · exact ⟨companion, member, stands among⟩
      · rintro ⟨facet, inside, among⟩
        exact ⟨facet, .inl inside, among⟩
  | always => rfl

namespace Table

variable {table : Table}

theorem find?_insert {companion added : Facet} {set : FacetSet}
    (member : set.contains companion = true) {rules : List Rule}
    (overlooks : ∀ rule ∈ rules, rule.condition.overlooks companion added = true) :
    rules.find? (fun rule => rule.condition.holds (set.insert added)) =
      rules.find? fun rule => rule.condition.holds set := by
  induction rules with
  | nil => rfl
  | cons rule rest ih =>
      obtain ⟨first, later⟩ := List.forall_mem_cons.mp overlooks
      rw [List.find?_cons, List.find?_cons, Condition.holds_insert first member, ih later]

/-- Rules that overlook a facet beside a member find the same outcome when it joins. -/
theorem outcome?_insert {companion added : Facet}
    (overlooks : ∀ rule ∈ table.rules, rule.condition.overlooks companion added = true)
    {set : FacetSet} (member : set.contains companion = true) :
    table.outcome? (set.insert added) = table.outcome? set := by
  have occupied : set.isEmpty = false := FacetSet.isEmpty_eq_false.mpr ⟨companion, member⟩
  have stillOccupied : (set.insert added).isEmpty = false :=
    FacetSet.isEmpty_eq_false.mpr (set.exists_contains_insert added)
  rw [outcome?, outcome?, occupied, stillOccupied, find?_insert member overlooks]

theorem standardRules_overlook_warnings :
    ∀ rule ∈ standardRules,
      rule.condition.overlooks .success .successWithWarnings = true := by
  decide

theorem standardRules_overlook_ignored (companion : Facet) :
    ∀ rule ∈ standardRules, rule.condition.overlooks companion .ignored = true := by
  cases companion <;> decide

/-! ## Tolerated failures as successes -/

/-- A tolerated failure that leaves a warning contributes this warning, and else what a
success contributes. -/
theorem facets_warned {entry : Entry} (warns : table.warns entry = true)
    (front back : List Entry) :
    table.facets (front ++ entry :: back) =
      (table.facets (front ++ .required .success :: back)).insert .successWithWarnings := by
  have warned : table.facetsOf entry = [.success, .successWithWarnings] := by
    rw [facetsOf, if_pos warns]
  have plain : table.facetsOf (.required .success) = [.success] := rfl
  apply FacetSet.ext_contains
  intro facet
  rw [Bool.eq_iff_iff, FacetSet.contains_insert, Bool.or_eq_true, decide_eq_true_iff,
    contains_facets, contains_facets]
  simp only [List.mem_append, List.mem_cons, or_and_right, exists_or, exists_eq_left, warned,
    plain, List.not_mem_nil, or_false]
  simp only [or_assoc, or_comm, or_left_comm]

/-- Where rules overlook warnings beside successes, a success can stand for a tolerated
failure.  In a dependency graph it can if the failed job is done. -/
theorem composite_absorbs
    (overlooks : ∀ rule ∈ table.rules,
      rule.condition.overlooks .success .successWithWarnings = true)
    {entry : Entry} (warns : table.warns entry = true) {discipline : Discipline}
    (completed : discipline = .dag → entry.status.isCompleted = true) (blocking : Bool)
    (front back : List Entry) :
    (table.composite discipline blocking (front ++ entry :: back)).status =
      (table.composite discipline blocking (front ++ .required .success :: back)).status := by
  have counts : discipline.counts entry = true := by
    cases discipline with
    | stage => rfl
    | dag => simp [Discipline.counts, completed rfl]
  have standInCounts : discipline.counts (.required .success) = true := by
    cases discipline <;> rfl
  have gate : (discipline = .dag && blocking &&
        (front ++ entry :: back).any fun entry => !entry.status.isCompleted) =
      (discipline = .dag && blocking &&
        (front ++ .required .success :: back).any fun entry => !entry.status.isCompleted) := by
    cases discipline with
    | stage => rfl
    | dag =>
        rw [List.any_append, List.any_append, List.any_cons, List.any_cons, completed rfl]
        rfl
  have member : (table.facets (front.filter discipline.counts ++ .required .success ::
      back.filter discipline.counts)).contains .success = true := by
    refine contains_facets.mpr ⟨.required .success, by simp, ?_⟩
    exact List.mem_singleton.mpr rfl
  rw [composite_eq, composite_eq, gate, List.filter_append, List.filter_append,
    List.filter_cons_of_pos counts, List.filter_cons_of_pos standInCounts, facets_warned warns]
  split
  · rfl
  · rw [compositeOfFacets, compositeOfFacets, outcome?_insert overlooks member]

/-- A tolerated failure that counts leaves its warning, unless the graph is held up. -/
theorem composite_warnings {entry : Entry} (warns : table.warns entry = true)
    {discipline : Discipline} (completed : discipline = .dag → entry.status.isCompleted = true)
    {blocking : Bool} {front back : List Entry}
    (unblocked : discipline = .dag → Unblocked blocking (front ++ entry :: back)) :
    (table.composite discipline blocking (front ++ entry :: back)).warnings = true := by
  have contributes : .successWithWarnings ∈ table.facetsOf entry := by
    rw [facetsOf, if_pos warns]
    decide
  cases discipline with
  | stage =>
      rw [composite_stage]
      exact contains_facets.mpr ⟨entry, by simp, contributes⟩
  | dag =>
      rw [composite_dag_unblocked table (unblocked rfl)]
      refine contains_facets.mpr ⟨entry, List.mem_filter.mpr ⟨by simp, ?_⟩, contributes⟩
      simp [Discipline.counts, completed rfl]

/-! ## Ignored entries in between -/

/-- The longer list is the shorter one with further entries in between. -/
inductive Interspersed (extra : Entry → Prop) : List Entry → List Entry → Prop where
  | nil : Interspersed extra [] []
  | keep {entry : Entry} {fewer more : List Entry} :
      Interspersed extra fewer more → Interspersed extra (entry :: fewer) (entry :: more)
  | insert {entry : Entry} {fewer more : List Entry} :
      extra entry → Interspersed extra fewer more → Interspersed extra fewer (entry :: more)

namespace Interspersed

variable {extra : Entry → Prop} {fewer more : List Entry}

theorem mem_more (interspersed : Interspersed extra fewer more) {entry : Entry}
    (member : entry ∈ fewer) : entry ∈ more := by
  induction interspersed with
  | nil => exact member
  | keep _ ih =>
      obtain rfl | later := List.mem_cons.mp member
      · exact List.mem_cons_self
      · exact List.mem_cons_of_mem _ (ih later)
  | insert _ _ ih => exact List.mem_cons_of_mem _ (ih member)

theorem mem_fewer (interspersed : Interspersed extra fewer more) {entry : Entry}
    (member : entry ∈ more) : entry ∈ fewer ∨ extra entry := by
  induction interspersed with
  | nil => exact .inl member
  | keep _ ih =>
      obtain rfl | later := List.mem_cons.mp member
      · exact .inl List.mem_cons_self
      · exact (ih later).imp (List.mem_cons_of_mem _) id
  | insert isExtra _ ih =>
      obtain rfl | later := List.mem_cons.mp member
      · exact .inr isExtra
      · exact ih later

end Interspersed

/-- The entry is ignored, and leaves no warning either. -/
def Drops (table : Table) (entry : Entry) : Prop :=
  entry.allowFailure = true ∧ entry.status ∈ table.ignorable ∧ entry.status ∉ table.warning

instance (table : Table) (entry : Entry) : Decidable (table.Drops entry) :=
  inferInstanceAs (Decidable (_ ∧ _))

theorem Drops.facetsOf {entry : Entry} (drops : table.Drops entry) :
    table.facetsOf entry = [.ignored] := by
  obtain ⟨allowed, ignorable, silent⟩ := drops
  simp [Table.facetsOf, warns, ignores, allowed, ignorable, silent]

/-- Entries that are ignored change nothing but whether there are ignored ones. -/
theorem insert_facets_interspersed {entries others : List Entry}
    (interspersed : Interspersed table.Drops entries others) :
    (table.facets others).insert .ignored = (table.facets entries).insert .ignored := by
  apply FacetSet.ext_contains
  intro facet
  rw [Bool.eq_iff_iff]
  simp only [FacetSet.contains_insert, Bool.or_eq_true, decide_eq_true_iff, contains_facets]
  constructor
  · rintro (⟨entry, member, contributed⟩ | ignored)
    · obtain kept | drops := interspersed.mem_fewer member
      · exact .inl ⟨entry, kept, contributed⟩
      · rw [drops.facetsOf, List.mem_singleton] at contributed
        exact .inr contributed
    · exact .inr ignored
  · rintro (⟨entry, member, contributed⟩ | ignored)
    · exact .inl ⟨entry, interspersed.mem_more member, contributed⟩
    · exact .inr ignored

/-- Where rules overlook ignored entries, these can be anywhere in a stage that has
others. -/
theorem stageComposite_interspersed
    (overlooks : ∀ companion, ∀ rule ∈ table.rules,
      rule.condition.overlooks companion .ignored = true)
    {entries others : List Entry} (nonempty : entries ≠ [])
    (interspersed : Interspersed table.Drops entries others) :
    table.stageComposite others = table.stageComposite entries := by
  have alone : ∀ {entries : List Entry}, entries ≠ [] →
      table.compositeOfFacets ((table.facets entries).insert .ignored) =
        table.compositeOfFacets (table.facets entries) := by
    intro entries nonempty
    obtain ⟨companion, member⟩ : ∃ facet, (table.facets entries).contains facet = true :=
      occupied_of_ne_nil nonempty
    rw [compositeOfFacets, compositeOfFacets, outcome?_insert (overlooks companion) member,
      FacetSet.contains_insert]
    simp
  have stillNonempty : others ≠ [] := by
    obtain ⟨entry, member⟩ := List.exists_mem_of_ne_nil entries nonempty
    exact List.ne_nil_of_mem (interspersed.mem_more member)
  rw [stageComposite, stageComposite, composite_stage, composite_stage, ← alone nonempty,
    ← alone stillNonempty, insert_facets_interspersed interspersed]

end Table

namespace Resolver

/-- Whatever the ignorable and warning statuses, under the standard rules a success that
must not fail can stand for any tolerated failure which leaves a warning: in a stage always,
in a dependency graph if the failed job is done.  The status is that of the success, and the
failure leaves its warning unless legacy blocking holds the graph up.  Tolerated failures that
leave no warning can be anywhere between the entries of a stage and change nothing. -/
theorem tolerated_failures_absorbed (ignorable warning : FacetSet) (toggles : Toggles) :
    let resolver : Resolver := ⟨⟨Table.standardRules, ignorable, warning⟩, toggles⟩
    (∀ (discipline : Discipline) (front back : List Entry) (entry : Entry),
      entry.allowFailure = true → entry.status ∈ warning →
      (discipline = .dag → entry.status.isCompleted = true) →
      let found := resolver.composite discipline (front ++ entry :: back)
      let standIn := resolver.composite discipline (front ++ .required .success :: back)
      found.1.status = standIn.1.status ∧ found.2 = standIn.2 ∧
        ((discipline = .dag →
          Table.Unblocked toggles.current.legacyBlocking (front ++ entry :: back)) →
            found.1.warnings = true)) ∧
    ∀ entries others : List Entry, entries ≠ [] →
      Table.Interspersed resolver.table.Drops entries others →
      resolver.composite .stage others = resolver.composite .stage entries := by
  intro resolver
  constructor
  · intro discipline front back entry allowed listed completed
    have warns : resolver.table.warns entry = true := by
      simp [Table.warns, resolver, allowed, listed]
    have overlooks : ∀ rule ∈ resolver.table.rules,
        rule.condition.overlooks .success .successWithWarnings = true :=
      Table.standardRules_overlook_warnings
    cases discipline with
    | stage =>
        refine ⟨Table.composite_absorbs overlooks warns completed false front back, rfl, ?_⟩
        intro _
        exact Table.composite_warnings warns completed fun dag => Discipline.noConfusion dag
    | dag =>
        refine ⟨Table.composite_absorbs overlooks warns completed _ front back, rfl, ?_⟩
        exact Table.composite_warnings warns completed
  · intro entries others nonempty interspersed
    have overlooks : ∀ companion, ∀ rule ∈ resolver.table.rules,
        rule.condition.overlooks companion .ignored = true :=
      Table.standardRules_overlook_ignored
    have same : resolver.table.stageComposite others = resolver.table.stageComposite entries :=
      Table.stageComposite_interspersed overlooks nonempty interspersed
    rw [composite, composite, same]

/-- Here running jobs that may fail leave warnings, and created ones are ignored. -/
theorem tolerated_failures_absorbed_unusual :
    let table := (Table.standard.withIgnorable [.created, .failed]).withWarning [.failed, .running]
    let resolver : Resolver := ⟨table, .fixed ⟨true, false⟩⟩
    let stage := resolver.composite .stage [.required .pending, .optional .running]
    let graph := resolver.composite .dag [.required .skipped, .optional .failed]
    stage.1.status = .running ∧ stage.1.warnings = true ∧
      graph.1.status = .success ∧ graph.1.warnings = true ∧
      resolver.composite .stage
        [.optional .created, .required .pending, .optional .created, .optional .running] =
          stage := by
  intro table resolver stage graph
  obtain ⟨absorbs, drops⟩ :=
    tolerated_failures_absorbed table.ignorable table.warning resolver.toggles
  obtain ⟨status, _, warnings⟩ :=
    absorbs .stage [.required .pending] [] (.optional .running) rfl (by decide) (by decide)
  obtain ⟨graphStatus, _, graphWarnings⟩ :=
    absorbs .dag [.required .skipped] [] (.optional .failed) rfl (by decide) (by decide)
  refine ⟨status.trans (by decide), warnings fun dag => Discipline.noConfusion dag,
    graphStatus.trans (by decide), graphWarnings fun _ _ => by decide, ?_⟩
  refine drops [.required .pending, .optional .running] _ (by decide) ?_
  exact .insert (by decide) (.keep (.insert (by decide) (.keep .nil)))

end Resolver

end Rollup
