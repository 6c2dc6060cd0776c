import Rollup.Proofs.Coherence

/-!
# Boards against rosters

A loaded board keeps indexes and a memo so as not to scan its rows for every
question.  It is sound when its indexes are coherent and every memoized composite is
the one that a scan of the present rows gives.  A question to a sound board has the
answer that its roster gives, changes the rows as the question to the roster does, and
leaves the board sound.
-/

namespace Rollup

namespace Board.Loaded

/-- The rows, with what resolves their composites. -/
def roster (loaded : Loaded) : Roster :=
  ⟨loaded.rows, loaded.resolver⟩

/-- Indexes and memo say what the present rows say. -/
structure Sound (loaded : Loaded) : Prop where
  coherent : loaded.snapshot.Coherent
  memo : ∀ window status, (window, status) ∈ loaded.memo.entries →
    status = loaded.roster.windowStatus window

/-- A question that a sound board answers as its roster answers another one. -/
structure Refines {α : Type} (ask : Loaded → α × Loaded) (scan : Roster → α × Roster) :
    Prop where
  answer : ∀ {loaded : Loaded}, loaded.Sound → (ask loaded).1 = (scan loaded.roster).1
  roster : ∀ {loaded : Loaded}, loaded.Sound → (ask loaded).2.roster = (scan loaded.roster).2
  sound : ∀ {loaded : Loaded}, loaded.Sound → (ask loaded).2.Sound

@[simp] theorem roster_record (loaded : Loaded) (records : List Record) :
    (loaded.record records).roster = loaded.roster := rfl

namespace Sound

variable {loaded : Loaded}

theorem record (sound : loaded.Sound) (records : List Record) :
    (loaded.record records).Sound :=
  ⟨sound.coherent, sound.memo⟩

/-- Consulting the switches concerns neither rows nor memo. -/
theorem withToggles (sound : loaded.Sound) (toggles : Toggles) :
    { loaded with resolver := { loaded.resolver with toggles } : Loaded }.Sound :=
  ⟨sound.coherent, sound.memo⟩

theorem needIds (sound : loaded.Sound) : loaded.needIds.Sound :=
  ⟨sound.coherent.withIds, sound.memo⟩

theorem needNames (sound : loaded.Sound) (names : List String) :
    (loaded.needNames names).Sound := by
  rw [Loaded.needNames]
  split
  · exact sound
  · exact ⟨sound.coherent.withNames, sound.memo⟩

theorem withStages (sound : loaded.Sound) :
    { loaded with snapshot := loaded.snapshot.withStages }.Sound :=
  ⟨sound.coherent.withStages, sound.memo⟩

/-- A composite computed from the indexes is the one that a scan gives. -/
theorem computeWindow (sound : loaded.Sound) (window : Window) :
    loaded.computeWindow window = loaded.roster.windowStatus window := by
  rw [Loaded.computeWindow, sound.coherent.window]
  rfl

/-- A memoized composite is the one that a scan gives. -/
theorem find?_memo (sound : loaded.Sound) {window : Window} {status : Status}
    (found : loaded.memo.find? window = some status) :
    status = loaded.roster.windowStatus window := by
  rw [Memo.find?, Option.map_eq_some_iff] at found
  obtain ⟨⟨kept, keptStatus⟩, foundEntry, rfl⟩ := found
  have member := List.mem_of_find?_eq_some foundEntry
  have sameWindow : kept = window := by simpa using List.find?_some foundEntry
  exact sameWindow ▸ sound.memo kept keptStatus member

end Sound

/-! ## Windows -/

theorem roster_windowStatus (loaded : Loaded) (window : Window) :
    (loaded.windowStatus window).2.roster = loaded.roster := by
  rw [windowStatus]
  split <;> rfl

theorem windowStatus_refines (window : Window) :
    Refines (fun loaded => loaded.windowStatus window)
      (fun roster => (roster.windowStatus window, roster)) where
  answer := by
    intro loaded sound
    rw [windowStatus]
    split
    · rename_i status found
      exact sound.find?_memo found
    · exact sound.computeWindow window
  roster sound := roster_windowStatus _ window
  sound := by
    intro loaded sound
    rw [windowStatus]
    split
    · exact ⟨sound.coherent, sound.memo⟩
    · refine ⟨sound.coherent.withStages, ?_⟩
      intro kept status member
      rcases List.mem_cons.mp member with equal | member
      · obtain ⟨rfl, rfl⟩ := Prod.mk.inj equal
        exact sound.computeWindow kept
      · exact sound.memo kept status member

theorem createdIds_refines (position : Position) :
    Refines (fun loaded => loaded.createdIds position)
      (fun roster => (roster.createdIds position, roster)) where
  answer := by
    intro loaded sound
    simp only [createdIds, sound.coherent.window]
    rfl
  roster _ := rfl
  sound sound := sound.withStages

theorem positions_refines :
    Refines positions (fun roster => (roster.positions, roster)) where
  answer sound := sound.coherent.positions
  roster _ := rfl
  sound sound := sound.withStages

/-! ## All rows -/

theorem all_refines : Refines all (fun roster => (roster.all, roster)) where
  answer _ := rfl
  roster _ := rfl
  sound sound := ⟨sound.coherent, sound.memo⟩

theorem unprocessed_refines :
    Refines (fun loaded => (loaded.unprocessed, loaded))
      (fun roster => (roster.unprocessed, roster)) where
  answer _ := rfl
  roster _ := rfl
  sound sound := sound

/-! ## Rows by id -/

theorem row?_refines (id : JobId) :
    Refines (fun loaded => loaded.row? id) (fun roster => (roster.row? id, roster)) where
  answer sound := sound.coherent.row? id
  roster _ := rfl
  sound sound := sound.needIds

/-- A row with an id is found where the id occurs. -/
theorem isSome_row? {snapshot : Snapshot} (coherent : snapshot.Coherent) (id : JobId) :
    (snapshot.row? id).isSome = decide (id ∈ snapshot.rows.map Row.id) := by
  rw [coherent.row?, List.isSome_find?, List.any_reverse]
  simp [List.any_eq]

theorem roster_modifyRow {loaded : Loaded} (coherent : loaded.snapshot.Coherent)
    (id : JobId) (change : Row → Row) :
    { loaded with snapshot := loaded.snapshot.modifyRow id change }.roster =
      loaded.roster.change id change := by
  simp only [Loaded.roster, Loaded.rows, Roster.change, coherent.rows_modifyRow]

theorem setStatus_refines (id : JobId) (update : Update) :
    Refines (fun loaded => loaded.setStatus id update)
      (fun roster => roster.setStatus id update) where
  answer := by
    intro loaded sound
    have found := isSome_row? sound.coherent id
    simp only [setStatus, Roster.setStatus]
    split
    · rename_i absent
      rw [absent] at found
      exact found
    · rename_i row present
      rw [present] at found
      exact found
  roster := by
    intro loaded sound
    simp only [setStatus]
    split
    · rename_i absent
      have found := isSome_row? sound.coherent id
      rw [absent] at found
      have missing : id ∉ loaded.snapshot.rows.map Row.id := by simpa using found.symm
      simp only [Roster.setStatus, Roster.change, Loaded.roster, Loaded.rows,
        changeLast_of_not_mem _ missing]
      rfl
    · exact roster_modifyRow sound.coherent id (Row.updated update)
  sound := by
    intro loaded sound
    simp only [setStatus]
    split
    · exact sound.needIds
    · refine ⟨sound.coherent.modifyRow id ?_ ?_ ?_, ?_⟩
      · exact fun _ => rfl
      · exact fun _ => rfl
      · exact fun _ => rfl
      · intro window status member
        cases member

theorem setProcessed_refines (id : JobId) :
    Refines (fun loaded => loaded.setProcessed id) (fun roster => roster.setProcessed id) where
  answer sound := isSome_row? sound.coherent id
  roster sound := roster_modifyRow sound.coherent id Row.marked
  sound := by
    intro loaded sound
    refine ⟨sound.coherent.modifyRow id ?_ ?_ ?_, ?_⟩
    · exact fun _ => rfl
    · exact fun _ => rfl
    · exact fun _ => rfl
    · -- The memo is kept, for marking changes nothing that a composite is made of.
      intro window status member
      have rosterEq : (loaded.setProcessed id).2.roster =
          loaded.roster.change id Row.marked :=
        roster_modifyRow sound.coherent id Row.marked
      rw [rosterEq, Roster.windowStatus_change_marked]
      exact sound.memo window status member

/-! ## Rows by name -/

theorem namedRows_eq {loaded : Loaded} (sound : loaded.Sound) (names : List String) :
    loaded.namedRows names = loaded.roster.namedRows names := by
  have lookup : loaded.snapshot.rowNamed? = loaded.roster.rowNamed? :=
    funext sound.coherent.rowNamed?
  rw [namedRows, lookup]
  rfl

@[simp] theorem roster_needNames (loaded : Loaded) (names : List String) :
    (loaded.needNames names).roster = loaded.roster := by
  rw [needNames]
  split <;> rfl

/-- Asking a sound board about one position after the other gives the composites that
scans give, and leaves its rows and switches alone. -/
theorem probeEach_beforeStage {loaded : Loaded} (sound : loaded.Sound)
    (positions : List Position) :
    (probeEach beforeStage positions loaded).1 =
        positions.map (fun position =>
          .required (loaded.roster.windowStatus (.beforeStage position))) ∧
      (probeEach beforeStage positions loaded).2.roster = loaded.roster ∧
      (probeEach beforeStage positions loaded).2.Sound := by
  induction positions generalizing loaded with
  | nil => exact ⟨rfl, rfl, sound⟩
  | cons position rest ih =>
      have asked := windowStatus_refines (.beforeStage position)
      have rosterEq := asked.roster sound
      obtain ⟨entries, roster, soundAfter⟩ := ih (asked.sound sound)
      simp only [probeEach, beforeStage] at entries roster soundAfter ⊢
      rw [rosterEq] at entries roster
      refine ⟨?_, roster, soundAfter⟩
      rw [entries, asked.answer sound, List.map_cons]

/-- The entries that a dependency-graph query adds, and what asking for them leaves. -/
theorem priorEntries_dag {loaded : Loaded} (sound : loaded.Sound) (named : List Dependency) :
    (loaded.priorEntries named .dag).1 =
        (if loaded.roster.switches.dependencyTree then loaded.roster.priorEntries named
          else []) ∧
      (loaded.priorEntries named .dag).2.roster = loaded.roster.consulted ∧
      (loaded.priorEntries named .dag).2.Sound := by
  have consulted := sound.withToggles loaded.resolver.toggles.advance
  cases tree : loaded.resolver.toggles.current.dependencyTree with
  | false =>
      have off : loaded.roster.switches.dependencyTree = false := tree
      simp only [priorEntries, tree, off]
      exact ⟨rfl, rfl, consulted⟩
  | true =>
      have on : loaded.roster.switches.dependencyTree = true := tree
      simp only [priorEntries, tree, on]
      exact probeEach_beforeStage consulted _

theorem map_entry_ofRow (rows : List Row) :
    (rows.map Dependency.ofRow).map Dependency.entry = rows.map Row.entry := by
  rw [List.map_map]
  rfl

theorem forNames_stage {loaded : Loaded} (sound : loaded.Sound) (names : List String) :
    (loaded.forNames names .stage).1 = (loaded.roster.forNames names .stage).1 := by
  have tableEq : (loaded.needNames names).resolver = loaded.resolver :=
    congrArg Roster.resolver (roster_needNames loaded names)
  simp only [forNames, priorEntries, Resolver.composite, List.append_nil,
    map_entry_ofRow, namedRows_eq sound, tableEq]
  rfl

theorem forNames_dag {loaded : Loaded} (sound : loaded.Sound) (names : List String) :
    (loaded.forNames names .dag).1 = (loaded.roster.forNames names .dag).1 ∧
      (loaded.forNames names .dag).2.roster = loaded.roster.consulted.consulted ∧
      (loaded.forNames names .dag).2.Sound := by
  have asked := priorEntries_dag (sound.needNames names)
    ((loaded.namedRows names).map Dependency.ofRow)
  rw [roster_needNames] at asked
  simp only [forNames]
  generalize (loaded.needNames names).priorEntries _ .dag = answered at asked ⊢
  obtain ⟨prior, after⟩ := answered
  obtain ⟨priorEq, rosterEq, soundAfter⟩ := asked
  have resolverEq : after.resolver = loaded.roster.consulted.resolver :=
    congrArg Roster.resolver rosterEq
  have rowsEq : after.rows = loaded.rows := congrArg Roster.rows rosterEq
  refine ⟨?answer, ?roster, soundAfter.withToggles _⟩
  case answer =>
    simp only [map_entry_ofRow, namedRows_eq sound, resolverEq, Resolver.composite] at priorEq ⊢
    rw [priorEq]
    rfl
  case roster =>
    simp only [resolverEq, Resolver.composite, Loaded.roster, Loaded.rows] at rowsEq ⊢
    rw [rowsEq]
    rfl

theorem forNames_refines (names : List String) (discipline : Discipline) :
    Refines (fun loaded => loaded.forNames names discipline)
      (fun roster => roster.forNames names discipline) := by
  cases discipline with
  | stage =>
      exact ⟨fun sound => forNames_stage sound names,
        fun _ => roster_needNames _ names, fun sound => sound.needNames names⟩
  | dag =>
      exact ⟨fun sound => (forNames_dag sound names).1,
        fun sound => (forNames_dag sound names).2.1,
        fun sound => (forNames_dag sound names).2.2⟩

end Board.Loaded

end Rollup
