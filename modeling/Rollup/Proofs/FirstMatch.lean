import Rollup.Proofs.FacetSets

/-!
# The first rule that suits

Resolution folds the entries into a word and tries the rules on its bits.  What comes of it
is told here from the list of the facets that the entries contribute: the outcome of the
first rule that suits this list.  So it depends on which facets occur, and on nothing else.
-/

namespace Rollup

/-- What a condition asks of a list of facets.  None of them is met where there are no
facets. -/
def Condition.Suits (facets : List Facet) : Condition → Prop
  | .onlyOf allowed => facets ≠ [] ∧ ∀ facet ∈ facets, facet ∈ allowed.toList
  | .anyOf wanted => ∃ facet ∈ facets, facet ∈ wanted.toList
  | .always => facets ≠ []

instance (facets : List Facet) : (condition : Condition) → Decidable (condition.Suits facets)
  | .onlyOf allowed =>
      inferInstanceAs (Decidable (facets ≠ [] ∧ ∀ facet ∈ facets, facet ∈ allowed.toList))
  | .anyOf wanted => inferInstanceAs (Decidable (∃ facet ∈ facets, facet ∈ wanted.toList))
  | .always => inferInstanceAs (Decidable (facets ≠ []))

theorem Condition.not_suits_nil (condition : Condition) : ¬ condition.Suits [] := by
  cases condition with
  | onlyOf allowed => exact fun suits => suits.1 rfl
  | anyOf wanted =>
      rintro ⟨facet, member, _⟩
      cases member
  | always => exact fun suits => suits rfl

namespace Table

variable {table : Table} {entries : List Entry}

/-- The facets that entries contribute, one entry after the other. -/
def contributed (table : Table) (entries : List Entry) : List Facet :=
  entries.flatMap table.facetsOf

/-- The composite as rules would have it that are tried on a list of facets. -/
def plainComposite (table : Table) (entries : List Entry) : Composite :=
  let facets := table.contributed entries
  { status := ((table.rules.find? (·.condition.Suits facets)).map Rule.outcome).getD .success
    warnings := .successWithWarnings ∈ facets }

theorem facetsOf_eq (entry : Entry) :
    table.facetsOf entry =
      if entry.allowFailure = true ∧ entry.status ∈ table.warning then
        [.success, .successWithWarnings]
      else if entry.allowFailure = true ∧ entry.status ∈ table.ignorable then [.ignored]
      else [.ofStatus entry.status] := by
  simp [facetsOf, warns, ignores]

theorem contains_facets_iff {facet : Facet} :
    (table.facets entries).contains facet = true ↔ facet ∈ table.contributed entries := by
  rw [contains_facets, contributed, List.mem_flatMap]

theorem exists_contains_facets :
    (∃ facet, (table.facets entries).contains facet = true) ↔
      table.contributed entries ≠ [] := by
  simp only [contains_facets_iff]
  constructor
  · rintro ⟨facet, member⟩
    exact List.ne_nil_of_mem member
  · exact List.exists_mem_of_ne_nil _

theorem holds_iff_suits (occupied : table.contributed entries ≠ []) (condition : Condition) :
    condition.holds (table.facets entries) = true ↔
      condition.Suits (table.contributed entries) := by
  cases condition with
  | onlyOf allowed =>
      rw [Condition.holds, FacetSet.onlyOf_eq_true, exists_contains_facets]
      simp only [contains_facets_iff, Condition.Suits, FacetSet.mem_toList]
  | anyOf wanted =>
      rw [Condition.holds, FacetSet.anyOf_eq_true]
      simp only [contains_facets_iff, Condition.Suits, FacetSet.mem_toList]
  | always => exact iff_of_true rfl occupied

/-- The first rule that holds of the word is the first one that suits the list. -/
theorem outcome?_facets :
    table.outcome? (table.facets entries) =
      (table.rules.find? (·.condition.Suits (table.contributed entries))).map Rule.outcome := by
  rw [outcome?]
  by_cases vacant : table.contributed entries = []
  · have isEmpty : (table.facets entries).isEmpty = true := by
      rw [← Bool.not_eq_false, FacetSet.isEmpty_eq_false, exists_contains_facets]
      exact not_not_intro vacant
    have unsuited :
        table.rules.find? (·.condition.Suits (table.contributed entries)) = none := by
      apply List.find?_eq_none.mpr
      intro rule _
      simpa [vacant] using rule.condition.not_suits_nil
    rw [if_pos isEmpty, unsuited]
    rfl
  · have occupied : (table.facets entries).isEmpty = false :=
      FacetSet.isEmpty_eq_false.mpr (exists_contains_facets.mpr vacant)
    have same : (fun rule : Rule => rule.condition.holds (table.facets entries)) =
        fun rule => decide (rule.condition.Suits (table.contributed entries)) := by
      funext rule
      rw [Bool.eq_iff_iff, holds_iff_suits vacant, decide_eq_true_iff]
    rw [occupied, if_neg Bool.false_ne_true, same]

theorem compositeOfFacets_facets :
    table.compositeOfFacets (table.facets entries) = table.plainComposite entries := by
  have warnings : (table.facets entries).contains .successWithWarnings =
      decide (.successWithWarnings ∈ table.contributed entries) := by
    rw [Bool.eq_iff_iff, contains_facets_iff, decide_eq_true_iff]
  rw [compositeOfFacets, plainComposite, outcome?_facets, warnings]

/-- Entries together contribute what either of them do. -/
theorem contains_facets_append (entries others : List Entry) (facet : Facet) :
    (table.facets (entries ++ others)).contains facet =
      ((table.facets entries).contains facet || (table.facets others).contains facet) := by
  rw [Bool.eq_iff_iff, Bool.or_eq_true]
  simp only [contains_facets_iff, contributed, List.flatMap_append, List.mem_append]

end Table

namespace Rule

variable (listed facets : List Facet) (outcome : Status)

theorem suits_onlyOf :
    (onlyOf listed outcome).condition.Suits facets ↔
      facets ≠ [] ∧ ∀ facet ∈ facets, facet ∈ listed := by
  simp [onlyOf, Condition.Suits]

theorem suits_anyOf :
    (anyOf listed outcome).condition.Suits facets ↔ ∃ facet ∈ facets, facet ∈ listed := by
  simp [anyOf, Condition.Suits]

end Rule

/-- Whatever the table, the composite of stages is that of the first rule that suits the
facets which the entries contribute.  An entry contributes its status, or what stands for a
tolerated failure by the statuses that the table was given, and a rule suits by the facets that
are listed in it.  The composite depends on which entries there are, not on their order or
number, and entries together contribute what either of them do. -/
theorem Resolver.composite_stage_eq_plain (resolver : Resolver) (entries others : List Entry) :
    resolver.composite .stage entries = (resolver.table.plainComposite entries, resolver) ∧
      (∀ entry, resolver.table.facetsOf entry =
        if entry.allowFailure = true ∧ entry.status ∈ resolver.table.warning then
          [.success, .successWithWarnings]
        else if entry.allowFailure = true ∧ entry.status ∈ resolver.table.ignorable then
          [.ignored]
        else [.ofStatus entry.status]) ∧
      (∀ statuses status,
        (status ∈ (resolver.table.withIgnorable statuses).ignorable ↔ status ∈ statuses) ∧
        (status ∈ (resolver.table.withWarning statuses).warning ↔ status ∈ statuses)) ∧
      (∀ listed outcome facets,
        ((Rule.onlyOf listed outcome).condition.Suits facets ↔
          facets ≠ [] ∧ ∀ facet ∈ facets, facet ∈ listed) ∧
        ((Rule.anyOf listed outcome).condition.Suits facets ↔
          ∃ facet ∈ facets, facet ∈ listed) ∧
        ((Rule.always outcome).condition.Suits facets ↔ facets ≠ [])) ∧
      ((∀ entry, entry ∈ entries ↔ entry ∈ others) →
        resolver.composite .stage entries = resolver.composite .stage others) ∧
      ∀ facet, (resolver.table.facets (entries ++ others)).contains facet =
        ((resolver.table.facets entries).contains facet ||
          (resolver.table.facets others).contains facet) := by
  refine ⟨?plain, Table.facetsOf_eq, ?given, ?written, ?same,
    Table.contains_facets_append entries others⟩
  case plain =>
    rw [Resolver.composite, Table.stageComposite, Table.composite_stage,
      Table.compositeOfFacets_facets]
  case given =>
    intro statuses status
    exact ⟨FacetSet.mem_ofStatuses, FacetSet.mem_ofStatuses⟩
  case written =>
    intro listed outcome facets
    exact ⟨Rule.suits_onlyOf listed facets outcome, Rule.suits_anyOf listed facets outcome,
      Iff.rfl⟩
  case same =>
    intro same
    exact congrArg (·, resolver) (Table.composite_congr same)

/-- A status that is listed both as a warning and as ignorable leaves a warning, and rules
that list no facets never suit. -/
example :
    let rules : List Rule := [.anyOf [] .running, .onlyOf [] .failed, .always .manual]
    let table := ((Table.ofRules rules).withIgnorable [.failed, .manual]).withWarning [.failed]
    table.stageComposite [.optional .failed, .optional .manual] = ⟨.manual, true⟩ ∧
      table.stageComposite [] = ⟨.success, false⟩ := by
  decide

end Rollup
