import Rollup.Proofs.Coherence
import Rollup.Proofs.Offsets

/-!
# Accesses to snapshots

A snapshot is read, and its rows are written to, through the offsets of its indexes.  The
first access that consults an index builds it, from the rows as they are at that moment,
and no later write reaches it.  So what a run of accesses comes to is told from the rows
that the first access of each index found, and from the rows as they are now.
-/

namespace Rollup

/-- The row without what updates and marks touch. -/
def Row.fixed (row : Row) : Row :=
  { row with status := .created, processed := false, token := ⟨0⟩ }

namespace Snapshot

/-- The indexes of a snapshot. -/
inductive Index where
  | ids
  | names
  | stages
  deriving DecidableEq, Repr

/-- What can be done with a snapshot. -/
inductive Access where
  | rows
  | row (id : JobId)
  /-- The row with an id is looked up and changed in whatever way. -/
  | write (id : JobId) (change : Row → Row)
  | rowNamed (name : String)
  | positions
  | window (window : Window)

/-- What an access brings. -/
inductive Reply where
  | row (row? : Option Row)
  | rows (rows : List Row)
  | positions (positions : List Position)
  deriving DecidableEq, Repr

/-- The index that an access consults. -/
def Access.index? : Access → Option Index
  | .rows => none
  | .row _ | .write _ _ => some .ids
  | .rowNamed _ => some .names
  | .positions | .window _ => some .stages

/-- What an access to the snapshot brings. -/
def reply (snapshot : Snapshot) : Access → Reply
  | .rows => .rows snapshot.rows
  | .row id | .write id _ => .row (snapshot.row? id)
  | .rowNamed name => .row (snapshot.rowNamed? name)
  | .positions => .positions snapshot.positions
  | .window window => .rows (snapshot.window window)

/-- The records that an access to the snapshot leaves. -/
def records (snapshot : Snapshot) (access : Access) : List Record :=
  match access.index? with
  | some .ids => snapshot.idRecords
  | some .names => snapshot.nameRecords
  | _ => []

/-- The snapshot after an access. -/
def after (snapshot : Snapshot) : Access → Snapshot
  | .rows => snapshot
  | .row _ => snapshot.withIds
  | .write id change => snapshot.modifyRow id change
  | .rowNamed _ => snapshot.withNames
  | .positions | .window _ => snapshot.withStages

/-- The snapshot after some accesses, one after the other. -/
def afterAll (snapshot : Snapshot) (accesses : List Access) : Snapshot :=
  accesses.foldl after snapshot

/-! ## The moment of an index -/

/-- What an index holds. -/
def Index.Content : Index → Type
  | .ids => Offsets JobId
  | .names => Offsets String
  | .stages => StageOffsets

/-- The index of some rows. -/
def Index.build : (index : Index) → List Row → index.Content
  | .ids, rows => Offsets.ofKeys (rows.map Row.id)
  | .names, rows => Offsets.ofKeys (rows.map Row.name)
  | .stages, rows => StageOffsets.ofPositions (rows.map Row.position)

/-- All offsets that an index holds. -/
def Index.offsets : (index : Index) → index.Content → List Nat
  | .ids, (content : Offsets JobId) => content.map Prod.snd
  | .names, (content : Offsets String) => content.map Prod.snd
  | .stages, (content : StageOffsets) => content.flatMap Prod.snd

/-- The index that the snapshot has built. -/
def stored? (snapshot : Snapshot) : (index : Index) → Option index.Content
  | .ids => snapshot.ids?
  | .names => snapshot.names?
  | .stages => snapshot.stages?

/-- The index that the snapshot answers from: as it was built, or as it would be built
now. -/
def consulted (snapshot : Snapshot) (index : Index) : index.Content :=
  (snapshot.stored? index).getD (index.build snapshot.rows)

/-- The rows as the first of some accesses that consults an index finds them, or as all of
them leave them where none does. -/
def rowsAtFirst (snapshot : Snapshot) (accesses : List Access) (index : Index) : List Row :=
  (snapshot.afterAll (accesses.takeWhile fun access => access.index? ≠ some index)).rows

/-- An access builds the index that it consults and no other. -/
theorem stored?_after (snapshot : Snapshot) (access : Access) (index : Index) :
    (snapshot.after access).stored? index =
      if access.index? = some index then some (snapshot.consulted index)
      else snapshot.stored? index := by
  cases access with
  | write id change =>
      have kept : (snapshot.modifyRow id change).ids? = some snapshot.ids ∧
          (snapshot.modifyRow id change).names? = snapshot.names? ∧
          (snapshot.modifyRow id change).stages? = snapshot.stages? := by
        rw [modifyRow]
        split <;> exact ⟨rfl, rfl, rfl⟩
      cases index with
      | ids => exact kept.1
      | names => exact kept.2.1
      | stages => exact kept.2.2
  | _ => cases index <;> rfl

theorem stored?_afterAll_of_stored {snapshot : Snapshot} {index : Index}
    {content : index.Content} (stored : snapshot.stored? index = some content)
    (accesses : List Access) : (snapshot.afterAll accesses).stored? index = some content := by
  induction accesses generalizing snapshot with
  | nil => exact stored
  | cons access rest ih =>
      apply ih
      rw [stored?_after, consulted, stored]
      exact ite_self _

theorem rowsAtFirst_cons (snapshot : Snapshot) (access : Access) (rest : List Access)
    (index : Index) :
    snapshot.rowsAtFirst (access :: rest) index =
      if access.index? = some index then snapshot.rows
      else (snapshot.after access).rowsAtFirst rest index := by
  rw [rowsAtFirst, List.takeWhile_cons]
  by_cases consults : access.index? = some index
  · rw [if_neg (by simpa using consults), if_pos consults]
    rfl
  · rw [if_pos (by simpa using consults), if_neg consults]
    rfl

/-- An index is built by the first access that consults it, from the rows as they are then,
and stays as it was built. -/
theorem stored?_afterAll {snapshot : Snapshot} {index : Index}
    (unbuilt : snapshot.stored? index = none) (accesses : List Access) :
    (snapshot.afterAll accesses).stored? index =
      if accesses.any (·.index? = some index) then
        some (index.build (snapshot.rowsAtFirst accesses index))
      else none := by
  induction accesses generalizing snapshot with
  | nil => exact unbuilt
  | cons access rest ih =>
      have first := snapshot.stored?_after access index
      rw [rowsAtFirst_cons, List.any_cons]
      by_cases consults : access.index? = some index
      · rw [if_pos consults, consulted, unbuilt] at first
        rw [if_pos consults, decide_eq_true consults]
        exact stored?_afterAll_of_stored first rest
      · rw [if_neg consults, unbuilt] at first
        rw [if_neg consults, decide_eq_false consults]
        exact ih first

theorem rowsAtFirst_of_unconsulted {snapshot : Snapshot} {accesses : List Access}
    {index : Index} (unconsulted : accesses.any (·.index? = some index) = false) :
    snapshot.rowsAtFirst accesses index = (snapshot.afterAll accesses).rows := by
  induction accesses generalizing snapshot with
  | nil => rfl
  | cons access rest ih =>
      rw [List.any_cons, Bool.or_eq_false_iff] at unconsulted
      rw [rowsAtFirst_cons, if_neg (of_decide_eq_false unconsulted.1), ih unconsulted.2]
      rfl

/-- However rows were written to, an index holds the offsets of the rows that its first
access found. -/
theorem consulted_afterAll {snapshot : Snapshot} {index : Index}
    (unbuilt : snapshot.stored? index = none) (accesses : List Access) :
    (snapshot.afterAll accesses).consulted index =
      index.build (snapshot.rowsAtFirst accesses index) := by
  rw [consulted, stored?_afterAll unbuilt]
  split
  · rfl
  · rename_i unconsulted
    rw [rowsAtFirst_of_unconsulted (Bool.eq_false_iff.mpr unconsulted)]
    rfl

/-! ## What accesses come to -/

/-- The present row at the offset of the last past row with a key. -/
def rowAtLast {κ : Type} [DecidableEq κ] (keyOf : Row → κ) (key : κ)
    (past rows : List Row) : Option Row :=
  (offsetsWhere (keyOf · = key) past).getLast?.bind (rows[·]?)

namespace Access

/-- What an access brings, told from the past rows that each index is of and from the
present rows. -/
def recalled (past : Index → List Row) (rows : List Row) : Access → Reply
  | .rows => .rows rows
  | .row id | .write id _ => .row (rowAtLast Row.id id (past .ids) rows)
  | .rowNamed name => .row (rowAtLast Row.name name (past .names) rows)
  | .positions => .positions (distinctPositions ((past .stages).map Row.position))
  | .window range =>
      let positions := (distinctPositions ((past .stages).map Row.position)).filter range.covers
      .rows ((positions.flatMap fun position =>
        offsetsWhere (·.position = position) (past .stages)).filterMap (rows[·]?))

/-- The rows that an access leaves. -/
def written (past : Index → List Row) (rows : List Row) : Access → List Row
  | .write id change =>
      match (offsetsWhere (·.id = id) (past .ids)).getLast? with
      | some offset => rows.modify offset change
      | none => rows
  | _ => rows

/-- What building the index of an access records: each repetition of a key. -/
def repetitions (access : Access) (rows : List Row) : List Record :=
  match access.index? with
  | some .ids => (repeatsOf Row.id rows).map .repeatedId
  | some .names => (repeatsOf Row.name rows).map .repeatedName
  | _ => []

/-- What an access would bring if it scanned the rows. -/
def scanned (rows : List Row) : Access → Reply
  | .rows => .rows rows
  | .row id | .write id _ => .row (rows.reverse.find? (·.id = id))
  | .rowNamed name => .row (rows.reverse.find? (·.name = name))
  | .positions => .positions (distinctPositions (rows.map Row.position))
  | .window range => .rows (rows.filter fun row => range.covers row.position)

/-- The access writes a status, a mark or a token, if anything. -/
def LeavesFixed : Access → Prop
  | .write _ change => ∀ row, (change row).fixed = row.fixed
  | _ => True

end Access

section Recalled

variable {snapshot : Snapshot} {past : Index → List Row}
  (recalls : ∀ index, snapshot.consulted index = index.build (past index))

include recalls

theorem offset?_ids (id : JobId) :
    snapshot.ids.offset? id = (offsetsWhere (·.id = id) (past .ids)).getLast? := by
  have ids : snapshot.ids = Offsets.ofKeys ((past .ids).map Row.id) := recalls .ids
  rw [ids, Offsets.offset?_ofKeys, offsetsWhere_map]

theorem offset?_names (name : String) :
    snapshot.names.offset? name = (offsetsWhere (·.name = name) (past .names)).getLast? := by
  have names : snapshot.names = Offsets.ofKeys ((past .names).map Row.name) := recalls .names
  rw [names, Offsets.offset?_ofKeys, offsetsWhere_map]

theorem window_eq (window : Window) :
    snapshot.window window =
      (((distinctPositions ((past .stages).map Row.position)).filter
        window.covers).flatMap fun position =>
          offsetsWhere (·.position = position) (past .stages)).filterMap
        (snapshot.rows[·]?) := by
  have stages : snapshot.stages = .ofPositions ((past .stages).map Row.position) :=
    recalls .stages
  have offsets := StageOffsets.accepted_ofPositions window.covers
    ((past .stages).map Row.position)
  simp only [offsetsWhere_map] at offsets
  rw [← offsets, ← stages]
  cases window <;> rfl

/-- Every access goes through the offsets of past rows to the present ones. -/
theorem reply_eq_recalled (access : Access) :
    snapshot.reply access = access.recalled past snapshot.rows := by
  cases access with
  | rows => rfl
  | row id => rw [reply, row?, offset?_ids recalls]; rfl
  | write id change => rw [reply, row?, offset?_ids recalls]; rfl
  | rowNamed name => rw [reply, rowNamed?, offset?_names recalls]; rfl
  | positions =>
      have stages : snapshot.stages = .ofPositions ((past .stages).map Row.position) :=
        recalls .stages
      rw [reply, positions, stages, StageOffsets.map_fst_ofPositions]
      rfl
  | window window => rw [reply, window_eq recalls]; rfl

theorem rows_after (access : Access) :
    (snapshot.after access).rows = access.written past snapshot.rows := by
  cases access with
  | write id change =>
      rw [after, modifyRow, offset?_ids recalls, Access.written]
      cases (offsetsWhere (·.id = id) (past .ids)).getLast? <;> rfl
  | _ => rfl

end Recalled

/-- An index is built once, and records the repetitions among its keys then. -/
theorem records_eq {snapshot : Snapshot} {accesses : List Access}
    (built : ∀ index, (snapshot.stored? index).isSome = accesses.any (·.index? = some index))
    (access : Access) :
    snapshot.records access =
      if accesses.any (·.index? = access.index?) then [] else access.repetitions snapshot.rows := by
  rw [records, Access.repetitions]
  cases consults : access.index? with
  | none => exact (ite_self _).symm
  | some index =>
      rw [← built]
      cases index with
      | ids => rw [← repeatedKeys_map Row.id]; rfl
      | names => rw [← repeatedKeys_map Row.name]; rfl
      | stages => exact (ite_self _).symm

/-! ## Offsets in range -/

theorem Index.lt_of_mem_offsets {index : Index} {rows : List Row} {offset : Nat}
    (member : offset ∈ index.offsets (index.build rows)) : offset < rows.length := by
  cases index with
  | ids =>
      obtain ⟨entry, stored, rfl⟩ := List.mem_map.mp member
      simpa using Offsets.lt_of_mem_ofKeys stored
  | names =>
      obtain ⟨entry, stored, rfl⟩ := List.mem_map.mp member
      simpa using Offsets.lt_of_mem_ofKeys stored
  | stages => simpa using StageOffsets.lt_of_mem_ofPositions member

theorem length_rows_afterAll (snapshot : Snapshot) (accesses : List Access) :
    (snapshot.afterAll accesses).rows.length = snapshot.rows.length := by
  induction accesses generalizing snapshot with
  | nil => rfl
  | cons access rest ih =>
      have first : (snapshot.after access).rows.length = snapshot.rows.length := by
        cases access with
        | write id change =>
            rw [after, modifyRow]
            split
            · exact List.length_modify _ _ _
            · rfl
        | _ => rfl
      exact (ih (snapshot.after access)).trans first

/-! ## Accesses that write no key -/

theorem Coherent.after {snapshot : Snapshot} (coherent : snapshot.Coherent) {access : Access}
    (leavesFixed : access.LeavesFixed) : (snapshot.after access).Coherent := by
  cases access with
  | rows => exact coherent
  | row id => exact coherent.withIds
  | write id change =>
      apply coherent.modifyRow id
      · exact fun row => (congrArg Row.id (leavesFixed row) :)
      · exact fun row => (congrArg Row.name (leavesFixed row) :)
      · exact fun row => (congrArg Row.position (leavesFixed row) :)
  | rowNamed name => exact coherent.withNames
  | positions => exact coherent.withStages
  | window window => exact coherent.withStages

/-- It does not show when an index was built. -/
theorem Coherent.reply_eq_scanned {snapshot : Snapshot} (coherent : snapshot.Coherent)
    (access : Access) : snapshot.reply access = access.scanned snapshot.rows := by
  cases access with
  | rows => rfl
  | row id => exact congrArg Reply.row (coherent.row? id)
  | write id change => exact congrArg Reply.row (coherent.row? id)
  | rowNamed name => exact congrArg Reply.row (coherent.rowNamed? name)
  | positions => exact congrArg Reply.positions coherent.positions
  | window window => exact congrArg Reply.rows (coherent.window window)

theorem Coherent.map_fixed_after {snapshot : Snapshot} (coherent : snapshot.Coherent)
    {access : Access} (leavesFixed : access.LeavesFixed) :
    (snapshot.after access).rows.map Row.fixed = snapshot.rows.map Row.fixed := by
  cases access with
  | write id change =>
      rw [Snapshot.after, coherent.rows_modifyRow]
      exact map_changeLast id change leavesFixed snapshot.rows
  | _ => rfl

/-- Accesses that write no key leave a coherent snapshot, whose rows are what they were but
for statuses, marks and tokens. -/
theorem Coherent.afterAll {snapshot : Snapshot} (coherent : snapshot.Coherent)
    {accesses : List Access} (leaveFixed : ∀ access ∈ accesses, access.LeavesFixed) :
    (snapshot.afterAll accesses).Coherent ∧
      (snapshot.afterAll accesses).rows.map Row.fixed = snapshot.rows.map Row.fixed := by
  induction accesses generalizing snapshot with
  | nil => exact ⟨coherent, rfl⟩
  | cons access rest ih =>
      obtain ⟨first, others⟩ := List.forall_mem_cons.mp leaveFixed
      obtain ⟨coherentAfter, kept⟩ := ih (coherent.after first) others
      exact ⟨coherentAfter, kept.trans (coherent.map_fixed_after first)⟩

end Snapshot

end Rollup
