import Rollup.Proofs.Pass.Aftermath

/-!
# Offers

A pass offers the jobs that are created when it begins, stage by stage, and all of them
if it succeeds.  Hooks that make no job created take each job that they release out of
the created ones for good.  So however many passes there are and wherever they fail, a
job that was once released is not offered again.
-/

namespace Rollup

/-- The ids of the created jobs among some rows, in row order. -/
def createdJobs (rows : List Row) : List JobId :=
  (rows.filter fun row => row.status = .created).map Row.id

theorem mem_createdJobs {id : JobId} {rows : List Row} :
    id ∈ createdJobs rows ↔ ∃ row ∈ rows, row.status = .created ∧ row.id = id := by
  simp [createdJobs, and_assoc]

theorem createdJobs_nodup {rows : List Row} (unique : (rows.map Row.id).Nodup) :
    (createdJobs rows).Nodup :=
  (List.filter_sublist.map Row.id).nodup unique

/-- It is a matter of the ids and the statuses of the rows. -/
theorem createdJobs_congr {rows others : List Row}
    (same : rows.map (fun row => (row.id, row.status)) =
      others.map fun row => (row.id, row.status)) : createdJobs rows = createdJobs others := by
  have columns : ∀ rows : List Row, createdJobs rows =
      ((rows.map fun row => (row.id, row.status)).filter (·.2 = .created)).map Prod.fst := by
    intro rows
    rw [List.filter_map, List.map_map]
    rfl
  rw [columns, same, columns]

theorem createdJobs_append (front back : List Row) :
    createdJobs (front ++ back) = createdJobs front ++ createdJobs back := by
  rw [createdJobs, List.filter_append, List.map_append]
  rfl

theorem createdJobs_cons {row : Row} (created : row.status = .created) (back : List Row) :
    createdJobs (row :: back) = row.id :: createdJobs back := by
  have chosen : decide (row.status = .created) = true := decide_eq_true created
  rw [createdJobs, List.filter_cons, chosen]
  rfl

/-- The created jobs of all stages, one stage after the other, are those of all rows. -/
theorem Roster.flatMap_createdIds {roster : Roster} (ordered : InStageOrder roster.rows) :
    roster.positions.flatMap roster.createdIds = createdJobs roster.rows := by
  have among : ∀ row ∈ roster.rows, row.position ∈ roster.positions := by
    intro row member
    exact mem_distinctPositions.mpr (List.mem_map_of_mem member)
  calc
    roster.positions.flatMap roster.createdIds =
        createdJobs (roster.positions.flatMap fun position =>
          roster.rows.filter fun row => row.position = position) := by
      rw [createdJobs, List.filter_flatMap, List.map_flatMap]
      rfl
    _ = createdJobs roster.rows := by
      apply congrArg createdJobs
      exact flatMap_filter_position (distinctPositions_ascending _) ordered among

/-- Where no job is made created, a row is created afterwards only if it was before and its
job was not released. -/
theorem Row.created_of_after {said : Pass.Transcript} (row : Row)
    (harmless : ∀ id update, ∀ exchange ∈ said, exchange.update? id = some update →
      update.status ≠ .created) (created : (row.after said).status = .created) :
    row.status = .created ∧ row.id ∉ said.filterMap Pass.Exchange.released? := by
  cases given : said.update? row.id with
  | some update =>
      obtain ⟨exchange, member, updates⟩ := List.mem_filterMap.mp (List.mem_of_getLast? given)
      rw [Row.after, given] at created
      exact absurd created (harmless row.id update exchange member updates)
  | none =>
      rw [Row.after, given] at created
      refine ⟨created, ?_⟩
      intro released
      obtain ⟨exchange, member, releases⟩ := List.mem_filterMap.mp released
      have silent := List.filterMap_eq_nil_iff.mp (List.getLast?_eq_none_iff.mp given)
      obtain ⟨update, updates⟩ := Pass.Exchange.update?_of_released? releases
      rw [silent exchange member] at updates
      cases updates

namespace Pass

/-! ## The offers of a pass -/

namespace Replay

variable {σ : Type} {hooks : Hooks σ} {replay : Replay σ} {said : Transcript}
  {acted : Except Fault Unit × Replay σ}

/-- Where ids are distinct, a stage leaves the created jobs of the other stages alone. -/
theorem StageSpeech.createdIds {position other : Position}
    (stage : StageSpeech hooks position replay said acted)
    (unique : (replay.roster.rows.map Row.id).Nodup) (different : position ≠ other) :
    acted.2.roster.createdIds other = replay.roster.createdIds other := by
  have elsewhere : ∀ exchange ∈ said, ∀ id ∈ exchange.released?,
      ∀ found ∈ lastPosition? id replay.roster.rows,
        (Window.atStage other).covers found = false := by
    intro exchange member id released found runsAt
    have offered := List.mem_filterMap.mpr
      ⟨exchange, member, Exchange.offered?_of_released? released⟩
    obtain ⟨row, inRows, _, here, rfl⟩ := Roster.mem_createdIds.mp (stage.offers.subset offered)
    rw [lastPosition?_of_nodup unique inRows, here] at runsAt
    cases runsAt
    exact decide_eq_false different
  have kept := @Transcript.map_filter_apply _ (fun row => (row.id, row.status)) _
    (fun _ => rfl) _ _ elsewhere
  rw [← stage.rows] at kept
  exact createdJobs_congr kept

/-- A stage that succeeds leaves the created jobs of later stages and the ids of all rows
as they are. -/
theorem StageSpeech.leaves {position : Position} {others : List Position}
    (stage : StageSpeech hooks position replay said acted)
    (distinct : (position :: others).Nodup)
    (unique : (replay.roster.rows.map Row.id).Nodup) :
    (acted.2.roster.rows.map Row.id).Nodup ∧
      others.flatMap acted.2.roster.createdIds =
        others.flatMap replay.roster.createdIds := by
  constructor
  · rw [stage.map_id]
    exact unique
  · apply congrArg List.flatten
    apply List.map_congr_left
    intro other member
    apply stage.createdIds unique
    exact fun same => (List.nodup_cons.mp distinct).1 (same ▸ member)

namespace StagesSpeech

variable {positions : List Position}

/-- Stages offer what was created in them at the begin, as far as they come. -/
theorem offers (stages : StagesSpeech hooks positions replay said acted)
    (distinct : positions.Nodup) (unique : (replay.roster.rows.map Row.id).Nodup) :
    said.filterMap Exchange.offered? <+: positions.flatMap replay.roster.createdIds := by
  induction stages with
  | nil => exact List.nil_prefix
  | fault stage => exact stage.offers.trans (List.prefix_append _ _)
  | cons stage _ ih =>
      obtain ⟨uniqueNext, kept⟩ := stage.leaves distinct unique
      have more := ih (List.nodup_cons.mp distinct).2 uniqueNext
      rw [kept] at more
      rw [List.filterMap_append, stage.offersAll rfl, List.flatMap_cons]
      exact (List.prefix_append_right_inj _).mpr more

theorem offersAll (stages : StagesSpeech hooks positions replay said acted)
    (distinct : positions.Nodup) (unique : (replay.roster.rows.map Row.id).Nodup)
    (succeeds : acted.1 = .ok ()) :
    said.filterMap Exchange.offered? = positions.flatMap replay.roster.createdIds := by
  induction stages with
  | nil => rfl
  | fault stage => cases succeeds
  | cons stage _ ih =>
      obtain ⟨uniqueNext, kept⟩ := stage.leaves distinct unique
      rw [List.filterMap_append, stage.offersAll rfl, List.flatMap_cons, ← kept,
        ih (List.nodup_cons.mp distinct).2 uniqueNext succeeds]

end StagesSpeech

/-- A replay offers the created jobs that it finds, as far as it comes, and all of them if
it succeeds. -/
theorem RunSpeech.offers (course : RunSpeech hooks replay said acted)
    (ordered : InStageOrder replay.roster.rows)
    (unique : (replay.roster.rows.map Row.id).Nodup) :
    said.filterMap Exchange.offered? <+: createdJobs replay.roster.rows ∧
      (acted.1 = .ok () →
        said.filterMap Exchange.offered? = createdJobs replay.roster.rows) := by
  have distinct : replay.roster.positions.Nodup :=
    (distinctPositions_ascending _).imp UInt32.ne_of_lt
  obtain ⟨front, closing, staged, rfl, stages, stagesSucceed, silent, _⟩ := course.stages
  rw [List.filterMap_append, silent, List.append_nil, ← Roster.flatMap_createdIds ordered]
  refine ⟨stages.offers distinct unique, ?_⟩
  intro succeeds
  exact stages.offersAll distinct unique (stagesSucceed succeeds)

end Replay

/-- A pass offers the jobs that are created when it begins, as far as it comes, and all of
them if it succeeds. -/
theorem run_offers {σ : Type} (pass : Pass σ) (stamps : Stamps) (fuel : Nat) {board : Board}
    (sound : board.Sound) (hooks : σ) (outbox : Outbox) {snapshot : Snapshot}
    (loads : board.loadAside.1 = .ok snapshot) (unique : (snapshot.rows.map Row.id).Nodup) :
    let outcome := pass.run stamps fuel board hooks outbox
    let offered := (outcome.transcript pass hooks).filterMap Exchange.offered?
    offered <+: createdJobs snapshot.rows ∧
      ∀ report, outcome.result = .ok report → offered = createdJobs snapshot.rows := by
  intro outcome offered
  obtain ⟨ordered, course, showing, _⟩ :=
    run_of_rows pass stamps fuel sound hooks outbox loads
  obtain ⟨offers, complete⟩ := course.offers ordered unique
  refine ⟨offers, ?_⟩
  intro report result
  exact complete (Outcome.report_eq showing result).1

end Pass

end Rollup
