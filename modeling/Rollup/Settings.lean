import Rollup.Text.Blank
import Rollup.Toggles

/-!
# Settings

Two switches and a batch size. They are built step by step or read from
variables; a variable that is there but does not hold a value of its kind is
refused, with the value as it was found.
-/

namespace Rollup

/-- How a program is set up. -/
structure Settings where
  legacyBlocking : Bool
  dependencyTree : Bool
  /-- How many rows are offered for marking at once. -/
  batchSize : Nat
  deriving DecidableEq, Repr

/-- How many rows are offered for marking at once when nothing is said. -/
def defaultBatchSize : Nat :=
  100

namespace Settings

/-- The settings when nothing is said. -/
def standard : Settings :=
  ⟨false, true, defaultBatchSize⟩

/-- The switches of the settings. -/
def switches (settings : Settings) : Switches :=
  ⟨settings.legacyBlocking, settings.dependencyTree⟩

/-- The settings with another batch size; a batch holds one row at least. -/
def withBatchSize (settings : Settings) (size : Nat) : Settings :=
  { settings with batchSize := max size 1 }

/-! ## Variables -/

/-- The variable of the blocking switch. -/
def legacyBlockingKey : String :=
  "STAGESTATUS_DAG_LEGACY_BLOCKING"

/-- The variable of the dependency-tree switch. -/
def dependencyTreeKey : String :=
  "STAGESTATUS_DEPENDENCY_TREE_FOR_DAG"

/-- The variable of the batch size. -/
def batchSizeKey : String :=
  "STAGESTATUS_PROCESSED_BATCH_SIZE"

/-- A variable whose value is not of its kind. -/
structure Invalid where
  key : String
  value : String
  deriving DecidableEq, Repr

/-- The wording of the refusal. -/
def Invalid.message (invalid : Invalid) : String :=
  "Invalid value for " ++ invalid.key ++ ": '" ++ invalid.value ++ "'"

/-- A switch position: blanks around it and the case of ASCII letters do not
matter. -/
def readSwitch? (text : String) : Option Bool :=
  let word := String.ofList ((Text.trim text.toList).map Char.toLower)
  if ["1", "true", "yes", "on"].contains word then some true
  else if ["0", "false", "no", "off"].contains word then some false
  else none

/-- The value of decimal digits, of which there must be one at least. -/
def readDigits? (digits : List Char) : Option Nat :=
  if !digits.isEmpty && digits.all Char.isDigit then
    some (digits.foldl (fun value digit => 10 * value + (digit.toNat - '0'.toNat)) 0)
  else
    none

/-- A batch size: decimal digits for a number below `2 ^ 64`, possibly behind a
plus sign. Blanks around it do not matter. -/
def readSize? (text : String) : Option Nat := do
  let digits :=
    match Text.trim text.toList with
    | '+' :: digits => digits
    | digits => digits
  let size ← readDigits? digits
  if size < Nat.pow 2 64 then some size else none

/-- Read one variable. A variable that is not there leaves the value as it is. -/
def lookupOr {α : Type} (lookup : String → Option String) (key : String)
    (read? : String → Option α) (default : α) : Except Invalid α :=
  match lookup key with
  | none => .ok default
  | some text =>
      match read? text with
      | some value => .ok value
      | none => .error ⟨key, text⟩

/-- Read the settings from variables. The first variable that does not hold a
value of its kind is reported. -/
def ofLookup (lookup : String → Option String) : Except Invalid Settings := do
  let legacyBlocking ← lookupOr lookup legacyBlockingKey readSwitch? standard.legacyBlocking
  let dependencyTree ← lookupOr lookup dependencyTreeKey readSwitch? standard.dependencyTree
  let batchSize ← lookupOr lookup batchSizeKey readSize? standard.batchSize
  return withBatchSize ⟨legacyBlocking, dependencyTree, standard.batchSize⟩ batchSize

end Settings

end Rollup
