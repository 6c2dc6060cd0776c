import Rollup.Proofs.StageOrder

/-!
# Probes

Expansion asks what is before a position, and the asking may have a state of its own.  A
noting probe writes down where it is asked and what it answers, and changes nothing else.
Its notes show that expansion asks once about each position at which a named job is held
up, by ascending position, and that nothing else about the named jobs matters.
-/

namespace Rollup

/-- What is before the dependency matters: it is no success, and the table does not take it
for a tolerated failure. -/
def Table.Blocks (table : Table) (dependency : Dependency) : Prop :=
  dependency.entry.status ≠ .success ∧
    ¬ (dependency.entry.allowFailure = true ∧ dependency.entry.status ∈ table.ignorable)

theorem Table.holdsUp_eq_true {table : Table} {dependency : Dependency} :
    table.holdsUp dependency = true ↔ table.Blocks dependency := by
  rw [holdsUp, Bool.and_eq_true, Bool.not_eq_true', ← Bool.not_eq_true]
  simp [ignores, Blocks]

theorem Table.mem_blockingPositions_iff {table : Table} {named : List Dependency}
    {position : Position} :
    position ∈ table.blockingPositions named ↔
      ∃ dependency ∈ named, table.Blocks dependency ∧ dependency.position = position := by
  simp only [blockingPositions, mem_distinctPositions, List.mem_map, List.mem_filter,
    holdsUp_eq_true, and_assoc]

/-- Dependencies that do not block can come and go, and the others can be repeated and stand
in any order. -/
theorem Table.blockingPositions_eq_of_blocks {table : Table} {named others : List Dependency}
    (same : ∀ dependency, table.Blocks dependency →
      (dependency ∈ named ↔ dependency ∈ others)) :
    table.blockingPositions named = table.blockingPositions others := by
  apply distinctPositions_congr
  intro position
  simp only [List.mem_map, List.mem_filter, holdsUp_eq_true, and_assoc]
  constructor
  · rintro ⟨dependency, member, blocks, here⟩
    exact ⟨dependency, (same dependency blocks).mp member, blocks, here⟩
  · rintro ⟨dependency, member, blocks, here⟩
    exact ⟨dependency, (same dependency blocks).mpr member, blocks, here⟩

variable {σ : Type}

/-- The probe, writing down where it was asked and what it answered. -/
def noting (probe : Position → σ → Status × σ) (position : Position)
    (state : σ × List (Position × Status)) : Status × (σ × List (Position × Status)) :=
  let (status, after) := probe position state.1
  (status, after, state.2 ++ [(position, status)])

/-- Noting what is asked changes neither the answers nor the state of the asking, and there
is one note for each position. -/
theorem probeEach_noting (probe : Position → σ → Status × σ) (positions : List Position)
    (state : σ) (notes : List (Position × Status)) :
    ∃ more : List (Position × Status), more.map Prod.fst = positions ∧
      (probeEach probe positions state).1 = more.map (fun note => .required note.2) ∧
      probeEach (noting probe) positions (state, notes) =
        ((probeEach probe positions state).1, (probeEach probe positions state).2,
          notes ++ more) := by
  induction positions generalizing state notes with
  | nil => exact ⟨[], rfl, rfl, by rw [List.append_nil]; rfl⟩
  | cons position rest ih =>
      let first := (position, (probe position state).1)
      obtain ⟨more, asked, answers, noted⟩ :=
        ih (probe position state).2 (notes ++ [first])
      refine ⟨first :: more, congrArg (position :: ·) asked, ?_, ?_⟩
      · simp only [probeEach, answers, List.map_cons, first]
      · simp only [probeEach, noting, first] at noted ⊢
        rw [noted, List.append_assoc, List.singleton_append]

/-- Whatever the probe does with its state, expansion asks it once about each position at
which a dependency blocks, by ascending position, and makes a required entry of each answer.
Dependencies that do not block, repetitions and the order of the dependencies change neither
what is asked nor what comes of it. -/
theorem expand_probes_once (table : Table) (named : List Dependency)
    (probe : Position → σ → Status × σ) (state : σ) :
    let run := expand table named (noting probe) (state, [])
    let notes := run.2.2
    (notes.map Prod.fst).Pairwise (· < ·) ∧
      (∀ position, position ∈ notes.map Prod.fst ↔
        ∃ dependency ∈ named, table.Blocks dependency ∧ dependency.position = position) ∧
      run.1 = notes.map (fun note => ⟨note.2, false⟩) ∧
      expand table named probe state = (run.1, run.2.1) ∧
      ∀ others, (∀ dependency, table.Blocks dependency →
          (dependency ∈ named ↔ dependency ∈ others)) →
        expand table others (noting probe) (state, []) = run ∧
          expand table others probe state = expand table named probe state := by
  intro run notes
  obtain ⟨more, asked, answers, noted⟩ :=
    probeEach_noting probe (table.blockingPositions named) state []
  have runEq : run = _ := noted
  have notesEq : notes.map Prod.fst = table.blockingPositions named := by
    rw [← asked]
    exact congrArg (fun run => run.2.2.map Prod.fst) runEq
  refine ⟨?ascending, ?positions, ?entries, ?same, ?others⟩
  case ascending =>
    rw [notesEq]
    exact distinctPositions_ascending _
  case positions =>
    intro position
    rw [notesEq]
    exact Table.mem_blockingPositions_iff
  case entries =>
    simp only [notes, runEq]
    exact answers
  case same =>
    rw [runEq]
    rfl
  case others =>
    intro others same
    have positions := Table.blockingPositions_eq_of_blocks same
    refine ⟨?_, ?_⟩
    · simp only [run, expand, positions]
    · simp only [expand, positions]

/-- Two running jobs of one stage are asked about once, and the tolerated one not at all. -/
example :
    let named : List Dependency :=
      [⟨.required .failed, 4⟩, ⟨.required .running, 2⟩, ⟨.optional .manual, 1⟩,
        ⟨.required .pending, 2⟩, ⟨.required .success, 3⟩]
    let count := fun (position : Position) (asked : Nat) =>
      (if position = 2 then Status.success else .running, asked + 1)
    expand .standard named (noting count) (0, []) =
      ([.required .success, .required .running], 2, [(2, .success), (4, .running)]) := by
  decide

end Rollup
