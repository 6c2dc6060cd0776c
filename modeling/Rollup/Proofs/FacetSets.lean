import Rollup.Composite

/-!
# Facet sets and the conditions on them

Facet sets are words, and the conditions of rules are computed on their bits.  Here
each of these operations is given its meaning by membership, and the facets of a list
of entries are those that one of the entries contributes.  Nothing after this module
looks at a bit.
-/

namespace Rollup

namespace FacetSet

/-- Every member is among some facets. -/
def Within (set : FacetSet) (facets : List Facet) : Prop :=
  ∀ facet, set.contains facet = true → facet ∈ facets

/-- Some member is among some facets. -/
def Meets (set : FacetSet) (facets : List Facet) : Prop :=
  ∃ facet ∈ facets, set.contains facet = true

instance (set : FacetSet) (facets : List Facet) : Decidable (set.Within facets) :=
  decidable_of_iff (∀ facet ∈ set.toList, facet ∈ facets) (by simp [Within])

instance (set : FacetSet) (facets : List Facet) : Decidable (set.Meets facets) :=
  inferInstanceAs (Decidable (∃ facet ∈ facets, set.contains facet = true))

/-- A set within two lists is within whatever they have in common. -/
theorem Within.common {set : FacetSet} {left right both : List Facet}
    (inLeft : set.Within left) (inRight : set.Within right)
    (common : ∀ facet ∈ Facet.all, facet ∈ left → facet ∈ right → facet ∈ both) :
    set.Within both :=
  fun facet member =>
    common facet (Facet.mem_all facet) (inLeft facet member) (inRight facet member)

/-- A set within a list is within every longer one. -/
theorem Within.mono {set : FacetSet} {fewer more : List Facet} (within : set.Within fewer)
    (subset : fewer ⊆ more) : set.Within more :=
  fun facet member => subset (within facet member)

theorem Meets.not_within {set : FacetSet} {facets others : List Facet}
    (meets : set.Meets facets) (apart : ∀ facet ∈ facets, facet ∉ others) :
    ¬ set.Within others := by
  intro within
  obtain ⟨facet, among, member⟩ := meets
  exact apart facet among (within facet member)

/-! ## Membership -/

theorem contains_foldl_insert (facets : List Facet) (set : FacetSet) (facet : Facet) :
    (facets.foldl insert set).contains facet =
      (set.contains facet || decide (facet ∈ facets)) := by
  induction facets generalizing set with
  | nil => simp
  | cons head rest ih =>
      rw [List.foldl_cons, ih, contains_insert]
      simp [Bool.or_assoc]

@[simp] theorem contains_ofList (facets : List Facet) (facet : Facet) :
    (ofList facets).contains facet = decide (facet ∈ facets) := by
  rw [ofList, contains_foldl_insert, contains_empty, Bool.false_or]

@[simp] theorem mem_ofStatuses {statuses : List Status} {status : Status} :
    status ∈ ofStatuses statuses ↔ status ∈ statuses := by
  rw [← containsStatus_eq_true, containsStatus, ofStatuses, contains_ofList]
  simp

theorem isEmpty_eq_true {set : FacetSet} :
    set.isEmpty = true ↔ ∀ facet, set.contains facet = false := by
  constructor
  · intro isEmpty facet
    have bits : set.bits = 0#13 := eq_of_beq isEmpty
    simp [contains, bits]
  · intro noMember
    have equal : set = empty := by
      apply ext_contains
      intro facet
      rw [noMember, contains_empty]
    subst equal
    rfl

theorem isEmpty_eq_false {set : FacetSet} :
    set.isEmpty = false ↔ ∃ facet, set.contains facet = true := by
  rw [← Bool.not_eq_true, isEmpty_eq_true]
  simp

theorem anyOf_eq_true {set other : FacetSet} :
    set.anyOf other = true ↔
      ∃ facet, set.contains facet = true ∧ other.contains facet = true := by
  have common : set.anyOf other = !(FacetSet.mk (set.bits &&& other.bits)).isEmpty := rfl
  rw [common, Bool.not_eq_true', isEmpty_eq_false]
  simp [contains]

theorem onlyOf_eq_true {set allowed : FacetSet} :
    set.onlyOf allowed = true ↔
      (∃ facet, set.contains facet = true) ∧
        ∀ facet, set.contains facet = true → allowed.contains facet = true := by
  have outside : set.onlyOf allowed =
      (!set.isEmpty && (FacetSet.mk (set.bits &&& ~~~allowed.bits)).isEmpty) := rfl
  rw [outside, Bool.and_eq_true, Bool.not_eq_true', isEmpty_eq_false, isEmpty_eq_true]
  apply and_congr_right
  intro _
  apply forall_congr'
  intro facet
  have inRange : (facet.index : Nat) < 13 := facet.index.isLt
  simp [contains, inRange]

end FacetSet

/-! ## Conditions -/

namespace Rule

variable {set : FacetSet} {facets : List Facet} {outcome : Status}

theorem onlyOf_holds :
    (onlyOf facets outcome).condition.holds set = true ↔
      (∃ facet, set.contains facet = true) ∧
        set.Within facets := by
  simp [FacetSet.Within, onlyOf, Condition.holds, FacetSet.onlyOf_eq_true]

theorem anyOf_holds :
    (anyOf facets outcome).condition.holds set = true ↔ set.Meets facets := by
  simp [FacetSet.Meets, anyOf, Condition.holds, FacetSet.anyOf_eq_true, and_comm]

end Rule

/-! ## The facets of entries -/

namespace Table

/-- What one entry contributes. -/
def facetsOf (table : Table) (entry : Entry) : List Facet :=
  if table.warns entry then [.success, .successWithWarnings]
  else if table.ignores entry then [.ignored]
  else [.ofStatus entry.status]

theorem contains_classify (table : Table) (set : FacetSet) (entry : Entry) (facet : Facet) :
    (table.classify set entry).contains facet =
      (set.contains facet || decide (facet ∈ table.facetsOf entry)) := by
  rw [classify, facetsOf]
  split
  · simp [Bool.or_assoc]
  · split <;> simp

theorem contains_foldl_classify (table : Table) (entries : List Entry) (set : FacetSet)
    (facet : Facet) :
    (entries.foldl table.classify set).contains facet = true ↔
      set.contains facet = true ∨ ∃ entry ∈ entries, facet ∈ table.facetsOf entry := by
  induction entries generalizing set with
  | nil => simp
  | cons head rest ih =>
      rw [List.foldl_cons, ih, contains_classify]
      simp [or_assoc]

/-- The facets of a list of entries are those of its members. -/
theorem contains_facets {table : Table} {entries : List Entry} {facet : Facet} :
    (table.facets entries).contains facet = true ↔
      ∃ entry ∈ entries, facet ∈ table.facetsOf entry := by
  rw [facets, contains_foldl_classify, FacetSet.contains_empty]
  simp

/-- Every entry contributes something. -/
theorem occupied_of_ne_nil {table : Table} {entries : List Entry} (nonempty : entries ≠ []) :
    ∃ facet, (table.facets entries).contains facet = true := by
  obtain ⟨entry, member⟩ := List.exists_mem_of_ne_nil entries nonempty
  have contributes : ∃ facet, facet ∈ table.facetsOf entry := by
    rw [facetsOf]
    split
    · exact ⟨_, List.mem_cons_self⟩
    · split <;> exact ⟨_, List.mem_cons_self⟩
  obtain ⟨facet, contributed⟩ := contributes
  exact ⟨facet, contains_facets.mpr ⟨entry, member, contributed⟩⟩

/-- The facets of a list are within some facets if and only if those of each entry
are. -/
theorem within_facets {table : Table} {entries : List Entry} {facets : List Facet} :
    (table.facets entries).Within facets ↔
      ∀ entry ∈ entries, table.facetsOf entry ⊆ facets := by
  constructor
  · intro within entry member facet contributed
    exact within facet (contains_facets.mpr ⟨entry, member, contributed⟩)
  · intro each facet member
    obtain ⟨entry, entryMember, contributed⟩ := contains_facets.mp member
    exact each entry entryMember contributed

variable {table : Table} {left right : List Entry}

/-- Entries contribute the same facets however often and in whatever order they occur. -/
theorem facets_congr (same : ∀ entry, entry ∈ left ↔ entry ∈ right) :
    table.facets left = table.facets right := by
  apply FacetSet.ext_contains
  intro facet
  apply Bool.eq_iff_iff.mpr
  simp only [contains_facets, same]

theorem composite_congr {discipline : Discipline} {blocking : Bool}
    (same : ∀ entry, entry ∈ left ↔ entry ∈ right) :
    table.composite discipline blocking left = table.composite discipline blocking right := by
  have unfinished : left.any (fun entry => !entry.status.isCompleted) =
      right.any fun entry => !entry.status.isCompleted := by
    apply Bool.eq_iff_iff.mpr
    simp only [List.any_eq_true, same]
  have counted : table.facets (left.filter discipline.counts) =
      table.facets (right.filter discipline.counts) := by
    apply facets_congr
    intro entry
    simp only [List.mem_filter, same]
  rw [composite_eq, composite_eq, unfinished, counted]

end Table

end Rollup
