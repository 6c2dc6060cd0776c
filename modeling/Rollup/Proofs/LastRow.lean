import Rollup.Proofs.Roster
import Rollup.Proofs.StageOrder

/-!
# The last row of an id

Every change of a job goes to the last row with its id.  Where that row stands decides
which stages a change can reach: in stage order none before any row of the id, and where
ids are distinct only the stage of the one row that has the id.
-/

namespace Rollup

/-- The position of the last row with an id. -/
def lastPosition? (id : JobId) (rows : List Row) : Option Position :=
  (rows.reverse.find? (·.id = id)).map Row.position

/-- A later row with the id goes before the first one. -/
theorem lastPosition?_cons (id : JobId) (row : Row) (rest : List Row) :
    lastPosition? id (row :: rest) =
      (lastPosition? id rest).or (if row.id = id then some row.position else none) := by
  simp only [lastPosition?, List.reverse_cons, List.find?_append, Option.map_or,
    List.find?_singleton]
  by_cases same : row.id = id <;> simp [same]

theorem lastPosition?_eq_none {id : JobId} {rows : List Row} :
    lastPosition? id rows = none ↔ id ∉ rows.map Row.id := by
  simp [lastPosition?]

/-- It is a matter of the ids and the positions of the rows. -/
theorem lastPosition?_congr {rows others : List Row}
    (same : rows.map (fun row => (row.id, row.position)) =
      others.map fun row => (row.id, row.position)) (id : JobId) :
    lastPosition? id rows = lastPosition? id others := by
  have read : ∀ rows : List Row, lastPosition? id rows =
      (((rows.map fun row => (row.id, row.position)).reverse.find? (·.1 = id)).map
        Prod.snd) := by
    intro rows
    rw [lastPosition?, ← List.map_reverse, List.find?_map, Option.map_map]
    rfl
  rw [read, read, same]

/-- In stage order no row of an id runs after the last one. -/
theorem le_lastPosition {rows : List Row} (ordered : InStageOrder rows) {row : Row}
    (member : row ∈ rows) :
    ∃ last, lastPosition? row.id rows = some last ∧ row.position ≤ last := by
  induction ordered with
  | nil => cases member
  | @cons head rest below ordered ih =>
      rw [lastPosition?_cons]
      rcases List.mem_cons.mp member with rfl | member
      · cases found : lastPosition? row.id rest with
        | none =>
            refine ⟨row.position, ?_, UInt32.le_refl _⟩
            simp
        | some last =>
            refine ⟨last, rfl, ?_⟩
            rw [lastPosition?, Option.map_eq_some_iff] at found
            obtain ⟨other, otherFound, rfl⟩ := found
            apply below other
            exact List.mem_reverse.mp (List.mem_of_find?_eq_some otherFound)
      · obtain ⟨last, found, earlier⟩ := ih member
        refine ⟨last, ?_, earlier⟩
        rw [found]
        rfl

/-- Where ids are distinct, the last row of an id is the only one. -/
theorem lastPosition?_of_nodup {rows : List Row} (unique : (rows.map Row.id).Nodup)
    {row : Row} (member : row ∈ rows) : lastPosition? row.id rows = some row.position := by
  induction rows with
  | nil => cases member
  | cons head rest ih =>
      obtain ⟨new, uniqueRest⟩ := List.nodup_cons.mp unique
      rw [lastPosition?_cons]
      rcases List.mem_cons.mp member with rfl | member
      · rw [lastPosition?_eq_none.mpr new]
        simp
      · rw [ih uniqueRest member]
        rfl

/-! ## What a change reaches -/

/-- A change of the last row of an id leaves the rows of those stages alone in which that
row does not run. -/
theorem filter_changeLast {accept : Position → Bool} {id : JobId} {change : Row → Row}
    (kept : ∀ row, (change row).position = row.position) {rows : List Row}
    (outside : ∀ position, lastPosition? id rows = some position → accept position = false) :
    (changeLast id change rows).filter (fun row => accept row.position) =
      rows.filter fun row => accept row.position := by
  induction rows with
  | nil => rfl
  | cons row rest ih =>
      rw [changeLast]
      split
      · rename_i later
        have outsideRest : ∀ position, lastPosition? id rest = some position →
            accept position = false := by
          intro position found
          apply outside
          rw [lastPosition?_cons, found]
          rfl
        rw [List.filter_cons, List.filter_cons, ih outsideRest]
      · rename_i last
        split
        · rename_i same
          have dismissed : accept row.position = false := by
            apply outside
            rw [lastPosition?_cons, lastPosition?_eq_none.mpr last]
            simp [same]
          simp only [List.filter_cons, kept, dismissed]
          rfl
        · rfl

/-- Where ids are distinct, a change of the last row of an id is a change of the row that
has the id. -/
theorem changeLast_of_nodup (id : JobId) (change : Row → Row) {rows : List Row}
    (unique : (rows.map Row.id).Nodup) :
    changeLast id change rows = rows.map fun row => if row.id = id then change row else row := by
  induction rows with
  | nil => rfl
  | cons row rest ih =>
      obtain ⟨new, uniqueRest⟩ := List.nodup_cons.mp unique
      rw [changeLast, List.map_cons, ← ih uniqueRest]
      split
      · rename_i later
        have different : row.id ≠ id := fun same => new (same ▸ later)
        rw [if_neg different]
      · rename_i last
        rw [changeLast_of_not_mem change last]
        split <;> rfl

end Rollup
