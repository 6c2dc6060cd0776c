import Rollup.Proofs.DependencyGate
import Rollup.Proofs.LastRow

/-!
# Rows in another order

Composites are made of sets of facets, so neither the order of the entries nor their
repetition matters to them.  Two rosters with the same rows in different orders, where ids
and names are distinct, therefore answer every question alike, up to the order of what they
list, and are such rosters again after the same change.
-/

namespace Rollup

/-! ## Positions -/

/-- Which stages have to be asked about depends on which jobs are named, and on nothing
else. -/
theorem Table.blockingPositions_congr {table : Table} {named others : List Row}
    (same : ∀ row, row ∈ named ↔ row ∈ others) :
    table.blockingPositions (named.map Dependency.ofRow) =
      table.blockingPositions (others.map Dependency.ofRow) := by
  apply blockingPositions_eq_of_blocks
  intro dependency _
  simp only [List.mem_map, same]

theorem distinctPositions_perm {left right : List Position} (perm : left.Perm right) :
    distinctPositions left = distinctPositions right :=
  distinctPositions_congr fun _ => perm.mem_iff

/-! ## Lookups -/

/-- Where names are distinct, names resolve to the rows that have them. -/
theorem namedBy_iff {rows : List Row} (unique : (rows.map Row.name).Nodup)
    {names : List String} {row : Row} :
    NamedBy rows names row ↔ row ∈ rows ∧ row.name ∈ names := by
  constructor
  · rintro ⟨name, among, found⟩
    obtain ⟨member, rfl⟩ := (find?_reverse_eq_some unique).mp found
    exact ⟨member, among⟩
  · rintro ⟨member, among⟩
    exact ⟨row.name, among, (find?_reverse_eq_some unique).mpr ⟨member, rfl⟩⟩

/-! ## Rosters -/

namespace Roster

section Contributions

variable {left right : Roster} (table : left.resolver.table = right.resolver.table)
  (perm : left.contributions.Perm right.contributions)

include table perm

/-- Composites are a matter of the table and of what rows contribute where, in any order. -/
theorem windowStatus_of_perm (window : Window) :
    left.windowStatus window = right.windowStatus window := by
  have same := (perm.filter fun part => window.covers part.1).map Prod.snd
  rw [windowStatus, windowStatus, map_entry_window, map_entry_window, table]
  exact congrArg Composite.status (Table.composite_congr fun _ => same.mem_iff)

theorem all_of_perm : left.all = right.all := by
  have entries : ∀ roster : Roster,
      roster.rows.map Row.entry = roster.contributions.map Prod.snd := by
    intro roster
    rw [contributions, List.map_map]
    rfl
  rw [all, all, entries, entries, table]
  exact Table.composite_congr fun _ => (perm.map Prod.snd).mem_iff

end Contributions

/-- Two rosters that resolve alike and have the same rows, of distinct ids and names, each
in an order of its own. -/
structure Shuffle (left right : Roster) : Prop where
  rows : left.rows.Perm right.rows
  ids : (left.rows.map Row.id).Nodup
  names : (left.rows.map Row.name).Nodup
  resolver : left.resolver = right.resolver

namespace Shuffle

variable {left right : Roster} (shuffle : left.Shuffle right)

include shuffle

theorem idsToo : (right.rows.map Row.id).Nodup :=
  (shuffle.rows.map Row.id).nodup_iff.mp shuffle.ids

theorem namesToo : (right.rows.map Row.name).Nodup :=
  (shuffle.rows.map Row.name).nodup_iff.mp shuffle.names

/-! ### Windows -/

theorem windowStatus (window : Window) : left.windowStatus window = right.windowStatus window :=
  windowStatus_of_perm (congrArg Resolver.table shuffle.resolver) (shuffle.rows.map _) window

theorem all : left.all = right.all :=
  all_of_perm (congrArg Resolver.table shuffle.resolver) (shuffle.rows.map _)

theorem positions : left.positions = right.positions :=
  distinctPositions_perm (shuffle.rows.map Row.position)

theorem createdIds (position : Position) :
    (left.createdIds position).Perm (right.createdIds position) :=
  ((shuffle.rows.filter _).filter _).map Row.id

theorem unprocessed : left.unprocessed.Perm right.unprocessed :=
  shuffle.rows.filter _

/-! ### Rows by id and by name -/

theorem row? (id : JobId) : left.row? id = right.row? id :=
  find?_reverse_perm shuffle.rows shuffle.ids id

/-- Two lists with the same names of rows resolve to the same rows, whatever else they
hold. -/
theorem mem_namedRows {names others : List String}
    (known : ∀ row ∈ left.rows, row.name ∈ names ↔ row.name ∈ others) (row : Row) :
    row ∈ left.namedRows names ↔ row ∈ right.namedRows others := by
  rw [Roster.mem_namedRows shuffle.ids, Roster.mem_namedRows shuffle.idsToo,
    namedBy_iff shuffle.names, namedBy_iff shuffle.namesToo, ← shuffle.rows.mem_iff]
  exact and_congr_right (known row)

theorem mem_dependencyEntries {names others : List String}
    (known : ∀ row ∈ left.rows, row.name ∈ names ↔ row.name ∈ others) (tree : Bool)
    (entry : Entry) :
    entry ∈ left.dependencyEntries tree names ↔ entry ∈ right.dependencyEntries tree others := by
  have named := shuffle.mem_namedRows known
  have prior : left.priorEntries ((left.namedRows names).map Dependency.ofRow) =
      right.priorEntries ((right.namedRows others).map Dependency.ofRow) := by
    rw [priorEntries, priorEntries, shuffle.resolver, Table.blockingPositions_congr named]
    apply List.map_congr_left
    intro position _
    rw [shuffle.windowStatus]
  simp only [dependencyEntries, List.mem_append, List.mem_map, named, prior]

theorem forNames {names others : List String}
    (known : ∀ row ∈ left.rows, row.name ∈ names ↔ row.name ∈ others)
    (discipline : Discipline) :
    (left.forNames names discipline).1 = (right.forNames others discipline).1 ∧
      (left.forNames names discipline).2.Shuffle (right.forNames others discipline).2 := by
  cases discipline with
  | stage =>
      refine ⟨?_, shuffle⟩
      have same : ∀ entry, entry ∈ (left.namedRows names).map Row.entry ↔
          entry ∈ (right.namedRows others).map Row.entry := by
        simp only [List.mem_map, shuffle.mem_namedRows known, implies_true]
      rw [Roster.forNames, Roster.forNames, shuffle.resolver, Table.stageComposite]
      exact congrArg Composite.status (Table.composite_congr same)
  | dag =>
      have again : left.consulted.consulted.resolver = right.consulted.consulted.resolver := by
        rw [consulted, consulted, shuffle.resolver]
        rfl
      refine ⟨?_, shuffle.rows, shuffle.ids, shuffle.names, again⟩
      rw [Roster.forNames, Roster.forNames, switches, switches, consulted, consulted, switches,
        switches, shuffle.resolver]
      exact congrArg Composite.status
        (Table.composite_congr (shuffle.mem_dependencyEntries known _))

/-! ### Changes -/

/-- The same change of the same job, where it leaves ids and names alone. -/
theorem change (id : JobId) {change : Row → Row} (keepsId : ∀ row, (change row).id = row.id)
    (keepsName : ∀ row, (change row).name = row.name) :
    (left.change id change).Shuffle (right.change id change) where
  rows := by
    rw [Roster.change, Roster.change, changeLast_of_nodup id change shuffle.ids,
      changeLast_of_nodup id change shuffle.idsToo]
    exact shuffle.rows.map _
  ids := by
    rw [Roster.change, map_changeLast id change keepsId]
    exact shuffle.ids
  names := by
    rw [Roster.change, map_changeLast id change keepsName]
    exact shuffle.names
  resolver := shuffle.resolver

theorem isKnown (id : JobId) :
    decide (id ∈ left.rows.map Row.id) = decide (id ∈ right.rows.map Row.id) :=
  decide_eq_decide.mpr (shuffle.rows.map Row.id).mem_iff

end Shuffle

end Roster

end Rollup
