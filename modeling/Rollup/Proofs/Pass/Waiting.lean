import Rollup.Proofs.Pass.Persistence

/-!
# What jobs are offered with

A job is offered in the turn of its stage, behind the composites that were stored for the
stages before, and with the composite of what it waits for, as the rows stand by then.
What is said from there on changes no row of an earlier stage.
-/

namespace Rollup

/-- The composite of what a job at a position waits for: the rows before its stage, nothing
at all, or the rows that it names. -/
def Roster.awaited (roster : Roster) (position : Position) : Scheduling → Status
  | .stage => roster.windowStatus (.beforeStage position)
  | .dag needs => if needs = [] then .success else (roster.forNames needs .dag).1

/-- Where nothing is repeated, a list falls into two parts at an item in one way. -/
theorem split_eq_of_nodup {α : Type} {front back before after : List α} {item : α}
    (unique : (front ++ item :: back).Nodup)
    (split : front ++ item :: back = before ++ item :: after) :
    front = before ∧ back = after := by
  obtain ⟨_, uniqueBack, apart⟩ := List.nodup_append.mp unique
  rcases split_append split with ⟨inner, rfl, _⟩ | ⟨inner, rfl, same⟩
  · exact absurd rfl (apart item (by simp) item List.mem_cons_self)
  · rcases List.cons_eq_append_iff.mp same with ⟨rfl, whole⟩ | ⟨others, rfl, rest⟩
    · exact ⟨(List.append_nil front).symm, (List.cons.inj whole).2.symm⟩
    · have repeated : item ∈ back := by
        rw [rest]
        exact List.mem_append_right _ List.mem_cons_self
      exact absurd repeated (List.nodup_cons.mp uniqueBack).1

namespace Pass

namespace Replay

variable {σ : Type} {hooks : Hooks σ} {replay : Replay σ} {said : Transcript}
  {acted : Except Fault Unit × Replay σ}

theorem dependencyStatus_eq_awaited (hooks : Hooks σ) (position : Position) (id : JobId)
    (replay : Replay σ) :
    (dependencyStatus hooks position id replay).1 =
      replay.roster.awaited position (hooks.scheduling replay.hooks id) := by
  rw [dependencyStatus]
  cases hooks.scheduling replay.hooks id with
  | stage => rfl
  | dag needs =>
      dsimp only [Roster.awaited]
      split <;> rfl

/-- What a job is offered with is what it waits for in the rows as the answers before left
them. -/
theorem Awaits.eq_awaited {position : Position} {before : Transcript} {id : JobId}
    {dependency : Status} (awaits : Awaits hooks position replay before id dependency) :
    ∃ roster : Roster, roster.rows = before.apply replay.roster.rows ∧
      roster.resolver.table = replay.roster.resolver.table ∧
      roster.resolver.toggles.answers = replay.roster.resolver.toggles.answers ∧
      dependency = roster.awaited position
        (hooks.scheduling (hooks.converse (before.map Exchange.call) replay.hooks).2 id) := by
  obtain ⟨current, speech, waited⟩ := awaits
  refine ⟨current.roster, speech.rows, speech.table, speech.switches, ?_⟩
  rw [speech.answers, waited]
  exact dependencyStatus_eq_awaited hooks position id current

/-- A job is offered in the turn of its stage, with what is said before it and from it on. -/
structure InTurn (hooks : Hooks σ) (replay : Replay σ) (positions : List Position)
    (before : Transcript) (id : JobId) (dependency : Status) (rest : Transcript)
    (position : Position) : Prop where
  /-- The stages before were stored, and no others. -/
  turn : ∃ later,
    positions = (before.filterMap Exchange.stored?).map Prod.fst ++ position :: later
  runs : (id, position) ∈ replay.roster.rows.map fun row => (row.id, row.position)
  awaits : Awaits hooks position replay before id dependency
  reaches : ∀ exchange ∈ rest, ∀ other ∈ exchange.offered?,
    ∀ last ∈ lastPosition? other replay.roster.rows, position ≤ last

theorem StageSpeech.inTurn {position : Position}
    (stage : StageSpeech hooks position replay said acted)
    (ordered : InStageOrder replay.roster.rows) (others : List Position)
    {before after : Transcript} {id : JobId} {dependency : Status}
    {answer : Except String (Option Update)}
    (split : said = before ++ .release id dependency answer :: after) :
    InTurn hooks replay (position :: others) before id dependency
      (.release id dependency answer :: after) position where
  turn := by
    rw [(stage.awaits _ _ _ _ _ split).1]
    exact ⟨others, rfl⟩
  runs := by
    have offered : id ∈ said.filterMap Exchange.offered? := by
      rw [split]
      simp [Exchange.offered?]
    obtain ⟨row, inRows, _, rfl, rfl⟩ :=
      Roster.mem_createdIds.mp (stage.offers.subset offered)
    exact List.mem_map_of_mem inRows
  awaits := (stage.awaits _ _ _ _ _ split).2
  reaches := by
    intro exchange member
    apply stage.reaches ordered exchange
    rw [split]
    exact List.mem_append_right before member

/-- A job that has its turn behind a stage has it behind this stage and those before. -/
theorem InTurn.behind {position stored : Position} {others : List Position}
    {next : Replay σ} {before rest : Transcript} {id : JobId} {dependency : Status}
    (inTurn : InTurn hooks next others before id dependency rest position)
    (stage : StageSpeech hooks stored replay said (.ok (), next)) :
    InTurn hooks replay (stored :: others) (said ++ before) id dependency rest position where
  turn := by
    obtain ⟨later, turn⟩ := inTurn.turn
    rw [List.filterMap_append, List.map_append, stage.storesAll rfl, turn]
    exact ⟨later, rfl⟩
  runs := by
    have runs := inTurn.runs
    rw [stage.rows, Transcript.map_apply (fun _ _ => rfl) (fun _ => rfl)] at runs
    exact runs
  awaits := inTurn.awaits.after stage.toSpeech
  reaches := by
    intro exchange member other offered last found
    apply inTurn.reaches exchange member other offered
    rw [stage.rows, Transcript.lastPosition?_apply]
    exact found

/-- The turn of a job is the same when more is said that reaches no earlier stage. -/
theorem InTurn.extend {position : Position} {positions : List Position}
    {before rest more : Transcript} {id : JobId} {dependency : Status}
    (inTurn : InTurn hooks replay positions before id dependency rest position)
    (reaches : ∀ exchange ∈ more, ∀ other ∈ exchange.offered?,
      ∀ last ∈ lastPosition? other replay.roster.rows, position ≤ last) :
    InTurn hooks replay positions before id dependency (rest ++ more) position where
  turn := inTurn.turn
  runs := inTurn.runs
  awaits := inTurn.awaits
  reaches := List.forall_mem_append.mpr ⟨inTurn.reaches, reaches⟩

/-- In stages that are run by ascending position every job is offered in its turn. -/
theorem StagesSpeech.inTurn {positions : List Position}
    (stages : StagesSpeech hooks positions replay said acted)
    (ascending : positions.Pairwise (· < ·)) (ordered : InStageOrder replay.roster.rows)
    {before after : Transcript} {id : JobId} {dependency : Status}
    {answer : Except String (Option Update)}
    (split : said = before ++ .release id dependency answer :: after) :
    ∃ position, InTurn hooks replay positions before id dependency
      (.release id dependency answer :: after) position := by
  induction stages generalizing before with
  | nil => exact absurd split.symm (List.append_ne_nil_of_right_ne_nil _ (List.cons_ne_nil _ _))
  | @fault position others _ _ _ _ stage =>
      exact ⟨position, stage.inTurn ordered others split⟩
  | @cons position others replay next said more acted stage rest ih =>
      obtain ⟨earlier, ascending⟩ := List.pairwise_cons.mp ascending
      have orderedNext := stage.inStageOrder ordered
      rcases split_append split with ⟨inner, inStage, rfl⟩ | ⟨inner, rfl, inRest⟩
      · refine ⟨position, (stage.inTurn ordered others inStage).extend ?_⟩
        -- Later stages reach their own rows and those behind.
        intro exchange member other offered last found
        rw [← Transcript.lastPosition?_apply said, ← stage.rows] at found
        obtain ⟨later, inOthers, notAfter⟩ :=
          rest.reaches orderedNext exchange member other offered last found
        exact UInt32.le_of_lt (UInt32.lt_of_lt_of_le (earlier later inOthers) notAfter)
      · obtain ⟨later, inTurn⟩ := ih ascending orderedNext inRest
        exact ⟨later, inTurn.behind stage⟩

/-- In a whole replay every job is offered in its turn. -/
theorem RunSpeech.inTurn (course : RunSpeech hooks replay said acted)
    (ordered : InStageOrder replay.roster.rows)
    {before after : Transcript} {id : JobId} {dependency : Status}
    {answer : Except String (Option Update)}
    (split : said = before ++ .release id dependency answer :: after) :
    ∃ position, InTurn hooks replay replay.roster.positions before id dependency
      (.release id dependency answer :: after) position := by
  have ascending := distinctPositions_ascending (replay.roster.rows.map Row.position)
  obtain ⟨front, closing, staged, rfl, stages, _, silent, _⟩ := course.stages
  have nothing := List.filterMap_eq_nil_iff.mp silent
  rcases split_append split with ⟨inner, inStages, rfl⟩ | ⟨inner, rfl, inClosing⟩
  · obtain ⟨position, inTurn⟩ := stages.inTurn ascending ordered inStages
    refine ⟨position, inTurn.extend ?_⟩
    intro exchange member other offered
    rw [nothing exchange member] at offered
    cases offered
  · have offered := nothing (.release id dependency answer) (by simp [inClosing])
    cases offered

end Replay

end Pass

end Rollup
