import Rollup.Event
import Rollup.Json.Printer

/-!
# The journal

Every step of the library leaves records of what it did, in order. A record is
one of a few kinds of happenings; its level, its message and its fields follow
from the kind.
-/

namespace Rollup

/-- How much a record matters. -/
inductive Level where
  | trace
  | debug
  | info
  | warn
  | error
  deriving DecidableEq, Repr

def Level.name : Level → String
  | .trace => "TRACE"
  | .debug => "DEBUG"
  | .info => "INFO"
  | .warn => "WARN"
  | .error => "ERROR"

/-- The rows that a memoized composite was made of. -/
inductive Window where
  /-- The rows at a position. -/
  | atStage (position : Position)
  /-- The rows before a position. -/
  | beforeStage (position : Position)
  deriving DecidableEq, Repr

def Window.describe : Window → String
  | .atStage position => "AtStage(" ++ toString position.toNat ++ ")"
  | .beforeStage position => "BeforeStage(" ++ toString position.toNat ++ ")"

/-- Something that happened. -/
inductive Record where
  /-- An id occurred in an earlier row already. -/
  | repeatedId (id : JobId)
  /-- A name occurred in an earlier row already. -/
  | repeatedName (name : String)
  /-- The rows of a pipeline could not be fetched. -/
  | fetchFailed (pipeline : PipelineId) (reason : String)
  /-- The rows of a pipeline are there. -/
  | snapshotLoaded (pipeline : PipelineId) (rows stages : Nat)
  /-- A composite was taken from the memo. -/
  | memoHit (window : Window) (status : Status)
  /-- A composite was computed and put into the memo. -/
  | memoized (window : Window) (status : Status)
  /-- A row is about to change its status. -/
  | statusChanged (id : JobId) (before after : Status)
  /-- The memo was emptied. -/
  | memoInvalidated
  /-- A processing pass began. -/
  | passStarted
  /-- A measured span came to its end. -/
  | spanFinished (name : String)
  /-- A processing pass came to its end. -/
  | passFinished (status : Status) (released processed : Nat)
  /-- An event was announced through the journal. -/
  | eventLogged (level : Level) (event : Event)
  deriving DecidableEq, Repr

namespace Record

/-- How much the happening matters. -/
def level : Record → Level
  | .repeatedId _ | .repeatedName _ => .warn
  | .fetchFailed .. => .error
  | .memoHit .. | .memoized .. | .memoInvalidated => .trace
  | .snapshotLoaded .. | .statusChanged .. | .spanFinished _ => .debug
  | .passStarted | .passFinished .. => .info
  | .eventLogged level _ => level

/-- The wording of the happening. -/
def message : Record → String
  | .repeatedId _ => "Duplicate job id in snapshot; keeping the later row"
  | .repeatedName _ => "Duplicate job name in snapshot; keeping the later row"
  | .fetchFailed .. => "Failed to fetch job statuses"
  | .snapshotLoaded .. => "Loaded status snapshot"
  | .memoHit .. => "Memo hit"
  | .memoized .. => "Memoized composite"
  | .statusChanged .. => "Updating job status"
  | .memoInvalidated => "Invalidated memoized composites"
  | .passStarted => "Processing pass started"
  | .spanFinished _ => "Span finished"
  | .passFinished .. => "Processing pass finished"
  | .eventLogged _ event => "Event: " ++ event.kind

/-- The particulars of the happening. -/
def fields : Record → List (String × Json)
  | .repeatedId id => [("job_id", .ofString (toString id))]
  | .repeatedName name => [("job_name", .ofString name)]
  | .fetchFailed pipeline reason =>
      [("pipeline", .ofString pipeline.label), ("error", .ofString reason)]
  | .snapshotLoaded pipeline rows stages =>
      [("pipeline", .ofString pipeline.label), ("rows", .ofNat rows), ("stages", .ofNat stages)]
  | .memoHit window status | .memoized window status =>
      [("key", .ofString window.describe), ("status", Wire.ofStatus status)]
  | .statusChanged id before after =>
      [("job_id", .ofString (toString id)), ("from", Wire.ofStatus before),
        ("to", Wire.ofStatus after)]
  | .memoInvalidated | .passStarted => []
  | .spanFinished name => [("span_name", .ofString name)]
  | .passFinished status released processed =>
      [("status", Wire.ofStatus status), ("released", .ofNat released),
        ("processed", .ofNat processed)]
  | .eventLogged _ event =>
      [("event_type", .ofString event.kind), ("event_data", .ofString event.payload.write)]

end Record

end Rollup
