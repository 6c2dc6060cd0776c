import Rollup.Proofs.Index
import Rollup.Proofs.Roster

/-!
# Coherent snapshots

A snapshot keeps the indexes that it once built.  It is coherent when each of them is
what it would be if it were built from the present rows.  A coherent snapshot finds
what a scan of its rows finds, and changes of a row that leave its id, its name and
its position alone keep it coherent.
-/

namespace Rollup

/-- The offset kept for an id leads a change to the last row with that id. -/
theorem modify_offset?_eq_changeLast {id : JobId} {offset : Nat} {change : Row → Row}
    {rows : List Row}
    (found : (Offsets.ofKeys (rows.map Row.id)).offset? id = some offset) :
    rows.modify offset change = changeLast id change rows := by
  induction rows generalizing offset with
  | nil => simp at found
  | cons row rest ih =>
      rw [List.map_cons, Offsets.offset?_ofKeys_cons] at found
      rw [changeLast]
      cases inRest : (Offsets.ofKeys (rest.map Row.id)).offset? id with
      | some later =>
          simp only [inRest, Option.map_some, Option.some_or, Option.some.injEq] at found
          subst found
          have occurs : id ∈ rest.map Row.id := by
            apply Decidable.not_not.mp
            rw [← Offsets.offset?_ofKeys_eq_none, inRest]
            simp
          rw [if_pos occurs, List.modify_succ_cons, ih inRest]
      | none =>
          simp only [inRest, Option.map_none, Option.none_or] at found
          rw [if_neg (Offsets.offset?_ofKeys_eq_none.mp inRest)]
          by_cases equal : row.id = id
          · simp only [equal, if_true, Option.some.injEq] at found
            subst found
            simp [equal]
          · simp [equal] at found

namespace Snapshot

/-- The rows are in stage order, and each index is what it would be if it were built
now. -/
structure Coherent (snapshot : Snapshot) : Prop where
  ordered : InStageOrder snapshot.rows
  ids : snapshot.ids = .ofKeys (snapshot.rows.map Row.id)
  names : snapshot.names = .ofKeys (snapshot.rows.map Row.name)
  stages : snapshot.stages = .ofPositions (snapshot.rows.map Row.position)

theorem coherent_ofRows (rows : List Row) : (ofRows rows).Coherent where
  ordered := sortByPosition_inStageOrder rows
  ids := rfl
  names := rfl
  stages := rfl

namespace Coherent

variable {snapshot : Snapshot}

theorem withIds (coherent : snapshot.Coherent) : snapshot.withIds.Coherent :=
  ⟨coherent.ordered, coherent.ids, coherent.names, coherent.stages⟩

theorem withNames (coherent : snapshot.Coherent) : snapshot.withNames.Coherent :=
  ⟨coherent.ordered, coherent.ids, coherent.names, coherent.stages⟩

theorem withStages (coherent : snapshot.Coherent) : snapshot.withStages.Coherent :=
  ⟨coherent.ordered, coherent.ids, coherent.names, coherent.stages⟩

theorem row? (coherent : snapshot.Coherent) (id : JobId) :
    snapshot.row? id = snapshot.rows.reverse.find? (·.id = id) := by
  rw [Snapshot.row?, coherent.ids]
  exact Offsets.lookup_ofKeys Row.id snapshot.rows id

theorem rowNamed? (coherent : snapshot.Coherent) (name : String) :
    snapshot.rowNamed? name = snapshot.rows.reverse.find? (·.name = name) := by
  rw [Snapshot.rowNamed?, coherent.names]
  exact Offsets.lookup_ofKeys Row.name snapshot.rows name

theorem positions (coherent : snapshot.Coherent) :
    snapshot.positions = distinctPositions (snapshot.rows.map Row.position) := by
  rw [Snapshot.positions, coherent.stages]
  exact StageOffsets.map_fst_ofPositions _

theorem window (coherent : snapshot.Coherent) (window : Window) :
    snapshot.window window =
      snapshot.rows.filter fun row => window.covers row.position := by
  rw [← filterMap_accepted_ofPositions coherent.ordered, ← coherent.stages]
  cases window <;> rfl

theorem rows_modifyRow (coherent : snapshot.Coherent) (id : JobId) (change : Row → Row) :
    (snapshot.modifyRow id change).rows = changeLast id change snapshot.rows := by
  rw [Snapshot.modifyRow]
  split
  · rename_i offset found
    rw [coherent.ids] at found
    exact modify_offset?_eq_changeLast found
  · rename_i absent
    rw [coherent.ids, Offsets.offset?_ofKeys_eq_none] at absent
    exact (changeLast_of_not_mem change absent).symm

/-- A change that keeps what rows are found by keeps every index right. -/
theorem modifyRow (coherent : snapshot.Coherent) (id : JobId) {change : Row → Row}
    (keepsId : ∀ row, (change row).id = row.id)
    (keepsName : ∀ row, (change row).name = row.name)
    (keepsPosition : ∀ row, (change row).position = row.position) :
    (snapshot.modifyRow id change).Coherent := by
  have rowsEq := coherent.rows_modifyRow id change
  have idsEq := map_changeLast id change keepsId snapshot.rows
  have namesEq := map_changeLast id change keepsName snapshot.rows
  have positionsEq := map_changeLast id change keepsPosition snapshot.rows
  rw [← rowsEq] at idsEq namesEq positionsEq
  have ordered : InStageOrder (snapshot.modifyRow id change).rows :=
    inStageOrder_congr positionsEq.symm coherent.ordered
  have kept : (snapshot.modifyRow id change).ids? = some snapshot.ids ∧
      (snapshot.modifyRow id change).names? = snapshot.names? ∧
      (snapshot.modifyRow id change).stages? = snapshot.stages? := by
    rw [Snapshot.modifyRow]
    split <;> exact ⟨rfl, rfl, rfl⟩
  refine ⟨ordered, ?ids, ?names, ?stages⟩
  case ids => rw [Snapshot.ids, kept.1, idsEq]; exact coherent.ids
  case names => rw [Snapshot.names, kept.2.1, namesEq]; exact coherent.names
  case stages => rw [Snapshot.stages, kept.2.2, positionsEq]; exact coherent.stages

end Coherent

end Snapshot

end Rollup
