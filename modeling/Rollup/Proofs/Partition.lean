import Rollup.Proofs.Pass.Offers
import Rollup.Proofs.Usage

/-!
# Stages as a partition

The rows of a loaded board are those that the source gave, ordered stably by position, but
for statuses, tokens and marks.  The positions that occur cut them into stages: one stage
after the other these are all rows, and the stages before a position are the rows before
it, whether the position occurs or not.
-/

namespace Rollup

/-! ## Stable order -/

/-- Rows put in stage order, without a change of place among those of one stage. -/
structure StablyOrdered (given ordered : List Row) : Prop where
  perm : ordered.Perm given
  inStageOrder : InStageOrder ordered
  stable : ∀ position, ordered.filter (fun row => row.position = position) =
    given.filter fun row => row.position = position

theorem stablyOrdered_sortByPosition (given : List Row) :
    StablyOrdered given (sortByPosition given) :=
  ⟨sortByPosition_perm given, sortByPosition_inStageOrder given, filter_sortByPosition given⟩

/-- There is no other stable order. -/
theorem StablyOrdered.eq_sortByPosition {given ordered : List Row}
    (stably : StablyOrdered given ordered) : ordered = sortByPosition given := by
  let positions := distinctPositions (given.map Row.position)
  have ascending : positions.Pairwise (· < ·) := distinctPositions_ascending _
  have stages : ∀ {rows}, StablyOrdered given rows →
      (positions.flatMap fun position => given.filter fun row => row.position = position) =
        rows := by
    intro rows stably
    have among : ∀ row ∈ rows, row.position ∈ positions := by
      intro row member
      exact mem_distinctPositions.mpr (List.mem_map_of_mem (stably.perm.mem_iff.mp member))
    rw [← flatMap_filter_position ascending stably.inStageOrder among, List.flatMap_def,
      List.flatMap_def, List.map_congr_left fun position _ => stably.stable position]
  exact (stages stably).symm.trans (stages (stablyOrdered_sortByPosition given))

/-! ## Stages of snapshots -/

namespace Snapshot.Coherent

variable {snapshot : Snapshot} (coherent : snapshot.Coherent)

include coherent

theorem mem_positions {position : Position} :
    position ∈ snapshot.positions ↔ ∃ row ∈ snapshot.rows, row.position = position := by
  rw [coherent.positions, mem_distinctPositions, List.mem_map]

theorem positions_ascending : snapshot.positions.Pairwise (· < ·) := by
  rw [coherent.positions]
  exact distinctPositions_ascending _

/-- The stages of accepted positions, one after the other, are the rows of these positions
in order. -/
theorem flatMap_atStage (accept : Position → Bool) :
    ((snapshot.positions.filter accept).flatMap fun position =>
      snapshot.window (.atStage position)) =
        snapshot.rows.filter fun row => accept row.position := by
  have stage : ∀ position, snapshot.window (.atStage position) =
      snapshot.rows.filter fun row => row.position = position :=
    fun position => coherent.window (.atStage position)
  simp only [stage]
  apply flatMap_filter_of_accepted coherent.positions_ascending coherent.ordered
  intro row member
  exact coherent.mem_positions.mpr ⟨row, member, rfl⟩

end Snapshot.Coherent

/-! ## Stages of boards -/

namespace Ledger

variable {ledger : Ledger} {rows : List Row}

/-- A question that changes nothing about the roster changes nothing about the ledger. -/
theorem query_of_rows {α : Type} (state : ledger.state = some (.ok rows)) (scan : Roster → α) :
    ledger.query (fun roster => (scan roster, roster)) =
      (.ok (scan ⟨rows, ledger.resolver⟩), ledger) := by
  obtain ⟨pipeline, source, fetches, state?, resolver⟩ := ledger
  cases state
  rfl

theorem performAll_createdIds (state : ledger.state = some (.ok rows))
    (positions : List Position) :
    (ledger.performAll (positions.map .createdIds)).1 =
      positions.map fun position => .ids (Roster.createdIds ⟨rows, ledger.resolver⟩ position) := by
  induction positions with
  | nil => rfl
  | cons position rest ih =>
      rw [List.map_cons, performAll, Rollup.performAll, perform, query_of_rows state]
      exact congrArg (List.cons _) ih

end Ledger

namespace Board

/-- However a board was used, its rows are those that the source gave, in stable order and
up to statuses, tokens and marks.  The stages of the positions that occur are these rows,
one stage after the other, and those before any position are the rows before it.  Asked for
the positions and then for the created jobs of each, the board gives all created jobs. -/
theorem stages_partition_rows {pipeline : PipelineId} {source : Source} {toggles : Toggles}
    {requests : List Request} {board : Board} {snapshot : Snapshot}
    (reached : board = ((ofSource pipeline source toggles).performAll requests).2)
    (state : board.state = some (.ok snapshot)) :
    (∃ number given ordered, board.fetches = number + 1 ∧
        source.fetch number pipeline = .rows given ∧ StablyOrdered given ordered ∧
        snapshot.rows.map Row.fixed = ordered.map Row.fixed) ∧
      snapshot.positions.Pairwise (· < ·) ∧
      (∀ position, position ∈ snapshot.positions ↔
        ∃ row ∈ snapshot.rows, row.position = position) ∧
      (snapshot.positions.flatMap fun position => snapshot.window (.atStage position)) =
        snapshot.rows ∧
      (∀ position, snapshot.window (.beforeStage position) =
        (snapshot.positions.filter (· < position)).flatMap fun earlier =>
          snapshot.window (.atStage earlier)) ∧
      ∃ created : Position → List JobId,
        (board.performAll (.positions :: snapshot.positions.map .createdIds)).1 =
          .positions snapshot.positions ::
            snapshot.positions.map (fun position => .ids (created position)) ∧
        snapshot.positions.flatMap created =
          (snapshot.rows.filter fun row => row.status = .created).map Row.id := by
  have sound : board.Sound := Reached.sound ⟨pipeline, source, toggles, requests, reached⟩
  have coherent : snapshot.Coherent := (sound.loaded state).coherent
  let roster : Roster := ⟨snapshot.rows, board.resolver⟩
  have positionsEq : snapshot.positions = roster.positions := coherent.positions
  refine ⟨?given, coherent.positions_ascending, fun _ => coherent.mem_positions,
    ?stages, ?before, roster.createdIds, ?answers, ?created⟩
  case given =>
    subst reached
    obtain ⟨number, given, last, fetched, accesses, leaveFixed, rfl⟩ := used_of_performAll state
    have kept := ((Snapshot.coherent_ofRows given).afterAll leaveFixed).2
    exact ⟨number, given, _, last, fetched, stablyOrdered_sortByPosition given, kept⟩
  case stages =>
    have everything := coherent.flatMap_atStage fun _ => true
    rw [List.filter_eq_self.mpr fun _ _ => rfl, List.filter_eq_self.mpr fun _ _ => rfl]
      at everything
    exact everything
  case before =>
    intro position
    rw [coherent.flatMap_atStage]
    exact coherent.window (.beforeStage position)
  case answers =>
    have rows : board.ledger.state = some (.ok snapshot.rows) := by
      rw [ledger, state]
      rfl
    rw [(performAll_agrees sound _).answer, positionsEq, Ledger.performAll, Rollup.performAll,
      Ledger.perform, Ledger.query_of_rows rows]
    exact congrArg (List.cons _) (Ledger.performAll_createdIds rows roster.positions)
  case created =>
    rw [positionsEq]
    exact Roster.flatMap_createdIds coherent.ordered

/-- Two rows of one job in the first stage there can be, and another job in the last one. -/
theorem stages_partition_rows_repeated_id :
    let given : List Row :=
      [.fresh ⟨2⟩ "deploy" .created 4294967295, .fresh ⟨1⟩ "build" .created 0,
        .fresh ⟨1⟩ "build" .failed 0]
    let source : Source := ⟨fun _ _ => .rows given⟩
    let requests : List Request := [.load, .setStatus ⟨1⟩ ⟨.created, ⟨3⟩⟩]
    let board := ((ofSource ⟨7⟩ source (.fixed ⟨false, true⟩)).performAll requests).2
    ∃ snapshot, board.state = some (.ok snapshot) ∧ snapshot.positions = [0, 4294967295] ∧
      snapshot.window (.beforeStage 4294967295) = snapshot.window (.atStage 0) ∧
      ∃ created : Position → List JobId,
        (board.performAll [.positions, .createdIds 0, .createdIds 4294967295]).1 =
          [.positions [0, 4294967295], .ids (created 0), .ids (created 4294967295)] ∧
        [0, 4294967295].flatMap created = [⟨1⟩, ⟨1⟩, ⟨2⟩] := by
  intro given source requests board
  have reached : board =
    ((ofSource ⟨7⟩ source (.fixed ⟨false, true⟩)).performAll requests).2 := rfl
  refine ⟨_, rfl, ?_⟩
  obtain ⟨_, _, _, _, before, created, answers, all⟩ := stages_partition_rows reached rfl
  refine ⟨by decide, ?_, created, answers, ?_⟩
  · rw [before]
    decide
  · exact all

end Board

end Rollup
