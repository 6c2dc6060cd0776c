import Rollup.Journal

/-!
# Sinks

A sink takes events. It drops them, writes them to the journal, or keeps them. An
outbox is a sink with what it has kept so far.
-/

namespace Rollup

/-- The level at which a sink that was made with a level records events: debug if it
was made with debug, and info otherwise. -/
def Level.ofEvents : Level → Level
  | .debug => .debug
  | .trace | .info | .warn | .error => .info

/-- What becomes of an event. -/
inductive Sink where
  /-- Nothing. -/
  | discard
  /-- A record, at the level that `Level.ofEvents` gives. -/
  | log (level : Level)
  /-- It is kept. -/
  | collect
  deriving DecidableEq, Repr

/-- A sink and the events that it has kept. -/
structure Outbox where
  sink : Sink
  kept : List Event
  deriving DecidableEq, Repr

namespace Outbox

/-- A sink that has kept nothing yet. -/
def ofSink (sink : Sink) : Outbox :=
  ⟨sink, []⟩

/-- Take an event, and say what that leaves in the journal. -/
def emit (outbox : Outbox) (event : Event) : Outbox × List Record :=
  match outbox.sink with
  | .discard => (outbox, [])
  | .log level => (outbox, [.eventLogged level.ofEvents event])
  | .collect => ({ outbox with kept := outbox.kept ++ [event] }, [])

/-- Events that are taken one after the other leave the sink as it was, and it keeps
all of them or none. -/
theorem foldl_emit (outbox : Outbox) (events : List Event) :
    events.foldl (fun outbox event => (outbox.emit event).1) outbox =
      { outbox with
        kept := outbox.kept ++ if outbox.sink = .collect then events else [] } := by
  induction events generalizing outbox with
  | nil => simp
  | cons event rest ih =>
      rw [List.foldl_cons, ih, emit]
      obtain ⟨sink, kept⟩ := outbox
      cases sink <;> simp

/-- The kept events whose kind starts with a text. -/
def keptOf (outbox : Outbox) (kind : String) : List Event :=
  outbox.kept.filter fun event => kind.toList.isPrefixOf event.kind.toList

end Outbox

end Rollup
