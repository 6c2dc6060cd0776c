import Rollup.Proofs.Answers

/-!
# Uses of the memo

What is done with a memo is told without it: composites of windows are looked up, jobs are
given statuses, and tables are put in place of others.  From such a list of uses follows what
the memo keeps and what it has counted: one lookup for each that was made, one entry and one
miss for each window that was looked up since everything was forgotten, however often that
was, and one invalidation for each status and each table.
-/

namespace Rollup

/-- What a memo is used for. -/
inductive MemoUse where
  /-- The composite of a window is looked up. -/
  | lookup (window : Window)
  /-- A job is given a status, so that every composite is forgotten. -/
  | statusSet (id : JobId)
  /-- Another table is resolved by from now on, so that every composite is forgotten. -/
  | tableSet
  deriving DecidableEq, Repr

namespace MemoUse

def isLookup : MemoUse → Bool
  | .lookup _ => true
  | _ => false

def isStatusSet : MemoUse → Bool
  | .statusSet _ => true
  | _ => false

def isTableSet : MemoUse → Bool
  | .tableSet => true
  | _ => false

/-! ## Epochs -/

/-- The windows that were looked up between one time when everything was forgotten and the
next, in order. -/
structure Epochs where
  past : List (List Window)
  /-- Since everything was forgotten last. -/
  current : List Window

namespace Epochs

def after (epochs : Epochs) : MemoUse → Epochs
  | .lookup window => { epochs with current := epochs.current ++ [window] }
  | _ => ⟨epochs.past ++ [epochs.current], []⟩

/-- How many distinct windows were looked up in each epoch, added up. -/
def distinct (epochs : Epochs) : Nat :=
  (epochs.past ++ [epochs.current]).foldl
    (fun total windows => total + windows.eraseDups.length) 0

end Epochs

def epochs (uses : List MemoUse) : Epochs :=
  uses.foldl Epochs.after ⟨[], []⟩

theorem epochs_concat (uses : List MemoUse) (use : MemoUse) :
    epochs (uses ++ [use]) = (epochs uses).after use := by
  rw [epochs, List.foldl_append]
  rfl

theorem countP_concat (count : MemoUse → Bool) (uses : List MemoUse) (use : MemoUse) :
    (uses ++ [use]).countP count = uses.countP count + if count use then 1 else 0 := by
  rw [List.countP_append, List.countP_singleton]

/-- A window that was looked up before adds no distinct one. -/
theorem eraseDups_concat (windows : List Window) (window : Window) :
    (windows ++ [window]).eraseDups =
      if window ∈ windows then windows.eraseDups else windows.eraseDups ++ [window] := by
  rw [List.eraseDups_append]
  by_cases known : window ∈ windows
  · have removed : [window].removeAll windows = [] := by simp [List.removeAll, known]
    rw [removed, if_pos known]
    exact List.append_nil _
  · have kept : [window].removeAll windows = [window] := by simp [List.removeAll, known]
    rw [kept, if_neg known]
    rfl

namespace Epochs

theorem distinct_eq (epochs : Epochs) :
    epochs.distinct =
      epochs.past.foldl (fun total windows => total + windows.eraseDups.length) 0 +
        epochs.current.eraseDups.length := by
  rw [distinct, List.foldl_append]
  rfl

theorem distinct_lookup (epochs : Epochs) (window : Window) :
    (epochs.after (.lookup window)).distinct =
      epochs.distinct + if window ∈ epochs.current then 0 else 1 := by
  rw [distinct_eq, distinct_eq, after, eraseDups_concat]
  split
  · rfl
  · rw [List.length_append, Nat.add_assoc]
    rfl

/-- An epoch that has just begun adds nothing. -/
theorem distinct_forget (epochs : Epochs) {use : MemoUse} (forgets : use.isLookup = false) :
    (epochs.after use).current = [] ∧ (epochs.after use).distinct = epochs.distinct := by
  have begun : epochs.after use = ⟨epochs.past ++ [epochs.current], []⟩ := by
    cases use with
    | lookup window => cases forgets
    | statusSet id => rfl
    | tableSet => rfl
  rw [begun]
  exact ⟨rfl, distinct_eq _⟩

end Epochs

end MemoUse

/-! ## Accounts -/

namespace Memo

theorem mem_of_find? {memo : Memo} {window : Window} {status : Status}
    (found : memo.find? window = some status) : window ∈ memo.entries.map Prod.fst := by
  rw [find?, Option.map_eq_some_iff] at found
  obtain ⟨entry, inEntries, _⟩ := found
  have same : entry.1 = window := by simpa using List.find?_some inEntries
  exact same ▸ List.mem_map_of_mem (List.mem_of_find?_eq_some inEntries)

theorem not_mem_of_find? {memo : Memo} {window : Window} (absent : memo.find? window = none) :
    window ∉ memo.entries.map Prod.fst := by
  rw [find?, Option.map_eq_none_iff, List.find?_eq_none] at absent
  intro member
  obtain ⟨entry, inEntries, rfl⟩ := List.mem_map.mp member
  exact absent entry inEntries (decide_eq_true rfl)

/-- A memo keeps and has counted what follows from its uses. -/
structure Accounts (memo : Memo) (uses : List MemoUse) : Prop where
  /-- The distinct windows of the current epoch, the first one last. -/
  kept : memo.entries.map Prod.fst = (MemoUse.epochs uses).current.eraseDups.reverse
  lookups : memo.stats.hits + memo.stats.misses = uses.countP MemoUse.isLookup
  misses : memo.stats.misses = (MemoUse.epochs uses).distinct
  invalidations : memo.stats.invalidations =
    uses.countP MemoUse.isStatusSet + uses.countP MemoUse.isTableSet

namespace Accounts

variable {memo : Memo} {uses : List MemoUse}

theorem empty : Memo.empty.Accounts [] :=
  ⟨rfl, rfl, rfl, rfl⟩

theorem mem_entries (accounts : memo.Accounts uses) {window : Window} :
    window ∈ memo.entries.map Prod.fst ↔ window ∈ (MemoUse.epochs uses).current := by
  rw [accounts.kept, List.mem_reverse, List.mem_eraseDups]

/-- A window that was looked up in this epoch is found. -/
theorem hit (accounts : memo.Accounts uses) {window : Window} {status : Status}
    (found : memo.find? window = some status) :
    memo.countHit.Accounts (uses ++ [.lookup window]) := by
  have known := accounts.mem_entries.mp (mem_of_find? found)
  constructor
  · rw [MemoUse.epochs_concat, MemoUse.Epochs.after, MemoUse.eraseDups_concat, if_pos known]
    exact accounts.kept
  · rw [MemoUse.countP_concat, ← accounts.lookups]
    exact Nat.add_right_comm _ _ _
  · rw [MemoUse.epochs_concat, MemoUse.Epochs.distinct_lookup, if_pos known]
    exact accounts.misses
  · rw [MemoUse.countP_concat, MemoUse.countP_concat]
    exact accounts.invalidations

/-- Any other window is a miss, and is kept from then on. -/
theorem miss (accounts : memo.Accounts uses) {window : Window}
    (absent : memo.find? window = none) (status : Status) :
    (memo.insert window status).Accounts (uses ++ [.lookup window]) := by
  have unknown := mt accounts.mem_entries.mpr (not_mem_of_find? absent)
  constructor
  · rw [MemoUse.epochs_concat, MemoUse.Epochs.after, MemoUse.eraseDups_concat, if_neg unknown,
      List.reverse_append, ← accounts.kept]
    rfl
  · rw [MemoUse.countP_concat, ← accounts.lookups]
    exact (Nat.add_assoc _ _ _).symm
  · rw [MemoUse.epochs_concat, MemoUse.Epochs.distinct_lookup, if_neg unknown, ← accounts.misses]
    rfl
  · rw [MemoUse.countP_concat, MemoUse.countP_concat]
    exact accounts.invalidations

/-- A use that is no lookup forgets everything. -/
theorem invalidate (accounts : memo.Accounts uses) {use : MemoUse}
    (forgets : use.isLookup = false) : memo.invalidate.Accounts (uses ++ [use]) := by
  obtain ⟨begun, same⟩ := (MemoUse.epochs uses).distinct_forget forgets
  constructor
  · rw [MemoUse.epochs_concat, begun]
    rfl
  · rw [MemoUse.countP_concat, forgets]
    exact accounts.lookups
  · rw [MemoUse.epochs_concat, same]
    exact accounts.misses
  · rw [MemoUse.countP_concat, MemoUse.countP_concat]
    have counted : memo.invalidate.stats.invalidations = memo.stats.invalidations + 1 := rfl
    rw [counted, accounts.invalidations]
    cases use with
    | lookup window => cases forgets
    | statusSet id => exact Nat.add_right_comm _ _ _
    | tableSet => exact Nat.add_assoc _ _ _

end Accounts

end Memo

/-! ## Uses by questions -/

theorem Table.blockingPositions_ofRow (table : Table) (rows : List Row) :
    table.blockingPositions (rows.map Dependency.ofRow) =
      distinctPositions ((rows.filter fun row =>
        row.status != .success && !table.ignores row.entry).map Row.position) := by
  rw [blockingPositions, List.filter_map, List.map_map]
  rfl

namespace Roster

/-- What the composite of named jobs uses the memo for: in a dependency graph with the switch
for it on, each position of named rows that are neither a success nor a tolerated failure is
asked about, once. -/
def usesOfNames (roster : Roster) (names : List String) : Discipline → List MemoUse
  | .stage => []
  | .dag =>
      if roster.switches.dependencyTree then
        (distinctPositions (((roster.namedRows names).filter fun row =>
          row.status != .success && !roster.resolver.table.ignores row.entry).map
            Row.position)).map fun position => .lookup (.beforeStage position)
      else
        []

/-- What a new status uses the memo for: it counts if there is a row with the id, whatever
the status was. -/
def usesOfStatus (roster : Roster) (id : JobId) : List MemoUse :=
  if id ∈ roster.rows.map Row.id then [.statusSet id] else []

end Roster

namespace Board.Loaded

/-- A question that uses the memo as is told from the roster. -/
def Counts {α : Type} (ask : Loaded → α × Loaded) (uses : Roster → List MemoUse) : Prop :=
  ∀ {loaded : Loaded} {earlier : List MemoUse}, loaded.Sound → loaded.memo.Accounts earlier →
    (ask loaded).2.memo.Accounts (earlier ++ uses loaded.roster)

theorem windowStatus_counts (window : Window) :
    Counts (fun loaded => loaded.windowStatus window) fun _ => [.lookup window] := by
  intro loaded earlier _ accounts
  dsimp only
  rw [windowStatus]
  split
  · rename_i status found
    exact accounts.hit found
  · rename_i absent
    exact accounts.miss absent _

theorem probeEach_counts (positions : List Position) :
    Counts (probeEach beforeStage positions) fun _ =>
      positions.map fun position => .lookup (.beforeStage position) := by
  intro loaded earlier sound accounts
  induction positions generalizing loaded earlier with
  | nil =>
      rw [List.map_nil, List.append_nil]
      exact accounts
  | cons position rest ih =>
      have asked := windowStatus_counts (.beforeStage position) sound accounts
      have soundAfter := (windowStatus_refines (.beforeStage position)).sound sound
      have others := ih soundAfter asked
      rw [List.append_assoc] at others
      exact others

theorem forNames_counts (names : List String) (discipline : Discipline) :
    Counts (fun loaded => loaded.forNames names discipline) fun roster =>
      roster.usesOfNames names discipline := by
  intro loaded earlier sound accounts
  have memoEq : (loaded.needNames names).memo = loaded.memo := by
    rw [needNames]
    split <;> rfl
  have resolverEq : (loaded.needNames names).resolver = loaded.resolver :=
    congrArg Roster.resolver (roster_needNames loaded names)
  rw [← memoEq] at accounts
  dsimp only
  cases discipline with
  | stage =>
      rw [Roster.usesOfNames, List.append_nil]
      exact accounts
  | dag =>
      have consulted := (sound.needNames names).withToggles
        (loaded.needNames names).resolver.toggles.advance
      have probed := probeEach_counts (loaded.resolver.table.blockingPositions
        ((loaded.namedRows names).map Dependency.ofRow)) consulted accounts
      rw [Roster.usesOfNames, ← namedRows_eq sound, ← Table.blockingPositions_ofRow]
      simp only [forNames, priorEntries, resolverEq] at probed ⊢
      cases tree : loaded.resolver.toggles.current.dependencyTree with
      | true =>
          have on : loaded.roster.switches.dependencyTree = true := tree
          rw [if_pos on]
          exact probed
      | false =>
          have off : ¬ loaded.roster.switches.dependencyTree = true := by
            rw [Bool.not_eq_true]
            exact tree
          rw [if_neg off, List.append_nil]
          exact accounts

theorem setStatus_counts (id : JobId) (update : Update) :
    Counts (fun loaded => loaded.setStatus id update) fun roster => roster.usesOfStatus id := by
  intro loaded earlier sound accounts
  have found : (loaded.snapshot.row? id).isSome = decide (id ∈ loaded.roster.rows.map Row.id) :=
    isSome_row? sound.coherent id
  dsimp only
  rw [setStatus, Roster.usesOfStatus]
  cases held : loaded.snapshot.row? id with
  | none =>
      rw [held] at found
      rw [if_neg (of_decide_eq_false found.symm), List.append_nil]
      exact accounts
  | some row =>
      rw [held] at found
      rw [if_pos (of_decide_eq_true found.symm)]
      exact accounts.invalidate rfl

end Board.Loaded

end Rollup
