import Rollup.Settings
import Rollup.Wire.Basic

/-!
# Settings on the wire

How settings and log formats are written and read.
-/

namespace Rollup

namespace Settings

def toJson (settings : Settings) : Json :=
  .ofMembers
    [ ("dag_legacy_blocking", .bool settings.legacyBlocking),
      ("dependency_tree_for_dag", .bool settings.dependencyTree),
      ("processed_batch_size", .ofNat settings.batchSize) ]

/-- Read settings as they are written; a field that is left out has the value of
the standard settings. -/
def ofJson? (json : Json) : Option Settings := do
  match ← Wire.slots?
      ["dag_legacy_blocking", "dependency_tree_for_dag", "processed_batch_size"] json with
  | [legacyBlocking, dependencyTree, batchSize] =>
      some
        { legacyBlocking := ← legacyBlocking.withDefault standard.legacyBlocking Wire.bool?
          dependencyTree := ← dependencyTree.withDefault standard.dependencyTree Wire.bool?
          batchSize := ← batchSize.withDefault standard.batchSize (Wire.natBelow? (Nat.pow 2 64)) }
  | _ => none

/-- Read settings for use: a batch holds one row at least. -/
def usable? (json : Json) : Option Settings :=
  (ofJson? json).map fun settings => settings.withBatchSize settings.batchSize

end Settings

/-- The forms in which a journal can be shown. -/
inductive JournalFormat where
  | plain
  | json
  deriving DecidableEq, Repr

namespace JournalFormat

/-- The written name of a form. -/
def name : JournalFormat → String
  | .plain => "plain"
  | .json => "json"

def ofName? (text : String) : Option JournalFormat :=
  [plain, json].find? fun format => format.name == text

def toJson (format : JournalFormat) : Json :=
  .ofString format.name

def ofJson? (json : Json) : Option JournalFormat :=
  (Wire.name? .direct json).bind ofName?

end JournalFormat

end Rollup
