import Rollup.Expansion
import Rollup.Journal

/-!
# Snapshots

A snapshot holds the rows of one pipeline in stage order. Rows are found by id,
by name and by stage through indexes of row offsets. An index is built when it is
first needed and stays as it was built: later changes of the rows do not reach it.
Where a key occurs in several rows the last of them is found, and building the
index records each repetition once.

Each lookup has a pure answer and, where it may build an index, the snapshot
behind it and the records it leaves.
-/

namespace Rollup

/-! ## Offsets by key -/

/-- Offsets of rows by their key, the last row first. -/
abbrev Offsets (κ : Type) := List (κ × Nat)

namespace Offsets

variable {κ : Type} [DecidableEq κ]

/-- Number the keys from an offset on. -/
def numberFrom (offset : Nat) : List κ → Offsets κ
  | [] => []
  | key :: rest => (key, offset) :: numberFrom (offset + 1) rest

/-- The offsets of all keys, the last first. -/
def ofKeys (keys : List κ) : Offsets κ :=
  (numberFrom 0 keys).reverse

/-- The offset of the last row with a key. -/
def offset? (offsets : Offsets κ) (key : κ) : Option Nat :=
  (List.find? (fun entry => entry.1 = key) offsets).map Prod.snd

end Offsets

/-- The keys that occur earlier in their list already, in order. -/
def repeatedKeys {κ : Type} [DecidableEq κ] (seen : List κ) : List κ → List κ
  | [] => []
  | key :: rest =>
      if key ∈ seen then key :: repeatedKeys seen rest
      else repeatedKeys (key :: seen) rest

/-! ## Offsets by stage -/

/-- Offsets of rows by position: positions ascend, and so do the offsets of each. -/
abbrev StageOffsets := List (Position × List Nat)

namespace StageOffsets

/-- Add an offset behind the offsets of its position. -/
def add (position : Position) (offset : Nat) : StageOffsets → StageOffsets
  | [] => [(position, [offset])]
  | (head, offsets) :: rest =>
      if position < head then
        (position, [offset]) :: (head, offsets) :: rest
      else if position = head then
        (head, offsets ++ [offset]) :: rest
      else
        (head, offsets) :: add position offset rest

/-- Add the offsets of a list of positions, counting from an offset on. -/
def addAll (stages : StageOffsets) (offset : Nat) : List Position → StageOffsets
  | [] => stages
  | position :: rest => addAll (add position offset stages) (offset + 1) rest

/-- The offsets of all positions. -/
def ofPositions (positions : List Position) : StageOffsets :=
  addAll [] 0 positions

/-- The offsets at a position. -/
def atStage (stages : StageOffsets) (position : Position) : List Nat :=
  (stages.filter fun stage => stage.1 = position).flatMap Prod.snd

/-- The offsets at all positions before a position. -/
def beforeStage (stages : StageOffsets) (position : Position) : List Nat :=
  (stages.filter fun stage => stage.1 < position).flatMap Prod.snd

end StageOffsets

/-! ## Rows with indexes -/

/-- The rows of one pipeline in stage order, with the indexes built so far. -/
structure Snapshot where
  rows : List Row
  ids? : Option (Offsets JobId)
  names? : Option (Offsets String)
  stages? : Option StageOffsets
  deriving Repr

namespace Snapshot

/-- A snapshot of the rows, without any index. -/
def ofRows (rows : List Row) : Snapshot :=
  ⟨sortByPosition rows, none, none, none⟩

/-- The index of ids: as it was built, or as it would be built now. -/
def ids (snapshot : Snapshot) : Offsets JobId :=
  snapshot.ids?.getD (.ofKeys (snapshot.rows.map Row.id))

/-- The index of names: as it was built, or as it would be built now. -/
def names (snapshot : Snapshot) : Offsets String :=
  snapshot.names?.getD (.ofKeys (snapshot.rows.map Row.name))

/-- The index of stages: as it was built, or as it would be built now. -/
def stages (snapshot : Snapshot) : StageOffsets :=
  snapshot.stages?.getD (.ofPositions (snapshot.rows.map Row.position))

/-- The snapshot with its index of ids. -/
def withIds (snapshot : Snapshot) : Snapshot :=
  { snapshot with ids? := some snapshot.ids }

/-- The snapshot with its index of names. -/
def withNames (snapshot : Snapshot) : Snapshot :=
  { snapshot with names? := some snapshot.names }

/-- The snapshot with its index of stages. -/
def withStages (snapshot : Snapshot) : Snapshot :=
  { snapshot with stages? := some snapshot.stages }

/-- What building the index of ids now would record. -/
def idRecords (snapshot : Snapshot) : List Record :=
  if snapshot.ids?.isSome then []
  else (repeatedKeys [] (snapshot.rows.map Row.id)).map .repeatedId

/-- What building the index of names now would record. -/
def nameRecords (snapshot : Snapshot) : List Record :=
  if snapshot.names?.isSome then []
  else (repeatedKeys [] (snapshot.rows.map Row.name)).map .repeatedName

/-- The row with an id. -/
def row? (snapshot : Snapshot) (id : JobId) : Option Row :=
  (snapshot.ids.offset? id).bind (snapshot.rows[·]?)

/-- The row with a name. -/
def rowNamed? (snapshot : Snapshot) (name : String) : Option Row :=
  (snapshot.names.offset? name).bind (snapshot.rows[·]?)

/-- Change the row that `row?` finds, if it finds one. -/
def modifyRow (snapshot : Snapshot) (id : JobId) (change : Row → Row) : Snapshot :=
  match snapshot.ids.offset? id with
  | some offset => { snapshot.withIds with rows := snapshot.rows.modify offset change }
  | none => snapshot.withIds

/-- The distinct positions, ascending. -/
def positions (snapshot : Snapshot) : List Position :=
  snapshot.stages.map Prod.fst

/-- The rows at the given offsets. -/
def rowsAt (snapshot : Snapshot) (offsets : List Nat) : List Row :=
  offsets.filterMap (snapshot.rows[·]?)

/-- The rows of a window. -/
def window (snapshot : Snapshot) : Window → List Row
  | .atStage position => snapshot.rowsAt (snapshot.stages.atStage position)
  | .beforeStage position => snapshot.rowsAt (snapshot.stages.beforeStage position)

end Snapshot

end Rollup
