import Rollup.Proofs.Records
import Rollup.Proofs.Roster
import Rollup.Proofs.StageOrder
import Rollup.Source

/-!
# Exports and memory

An export holds the recorded jobs of pipelines in a written form.  A source that reads it
gives for every pipeline what a source gives that holds the rows themselves, without the
attempts that later ones replaced.  An export with a job that cannot be read gives nothing,
whatever pipeline is asked for.
-/

namespace Rollup

/-! ## Jobs -/

/-- The fields of a row as they are written. -/
def Row.fields (row : Row) : List Wire.Field :=
  [ ⟨"id", Wire.ofWord row.id.val, false⟩,
    ⟨"name", .ofString row.name, false⟩,
    ⟨"status", Wire.ofStatus row.status, false⟩,
    ⟨"allow_failure", .bool row.allowFailure, !row.allowFailure⟩,
    ⟨"stage_position", Wire.ofPosition row.position, false⟩,
    ⟨"processed", .bool row.processed, !row.processed⟩,
    ⟨"change_token", Wire.ofWord row.token.val, row.token.val == 0⟩ ]

/-- A row is written with all its fields. -/
theorem Row.toJson_eq (row : Row) :
    row.toJson = .ofMembers (row.fields.map fun field => (field.name, field.value)) :=
  rfl

theorem Row.ofSlots?_of_found {row : Row} {slots : List Wire.Slot}
    (found : Wire.Found row.fields slots) (reading : Wire.Reading) :
    Row.ofSlots? reading slots = some row := by
  rw [Row.fields] at found
  obtain _ | ⟨id, _ | ⟨name, _ | ⟨status, _ | ⟨allowFailure, _ | ⟨position, _ | ⟨processed,
    _ | ⟨token, _ | _⟩⟩⟩⟩⟩⟩⟩ := found
  simp only [Row.ofSlots?, id.required rfl (Wire.word?_ofWord row.id.val),
    name.required rfl (Wire.text?_ofString row.name),
    status.required rfl (Wire.status?_ofStatus reading row.status), allowFailure.flag,
    position.required rfl (Wire.position?_ofPosition row.position), processed.flag,
    token.withDefault eq_of_beq (Wire.word?_ofWord row.token.val),
    Option.bind_eq_bind, Option.bind_some]

namespace RecordedJob

/-- The fields of a recorded job as they are written: those of its row, and whether a later
attempt replaced it. -/
def fields (job : RecordedJob) : List Wire.Field :=
  ⟨"retried", .bool job.retried, !job.retried⟩ :: job.row.fields

theorem isReadable_of_mem_fields {job : RecordedJob} {field : Wire.Field}
    (member : field ∈ job.fields) (depth : Nat) : Json.isReadable depth field.value = true := by
  have all : ∀ field ∈ job.fields, Json.isReadable depth field.value = true := by
    simp [fields, Row.fields]
  exact all field member

/-- A recorded job is read from any object that gives its fields. -/
theorem ofJson?_of_gives {job : RecordedJob} {members : List (Json.Key × Json)}
    (gives : Wire.Gives job.fields members) :
    RecordedJob.ofJson? (.object members) = some job := by
  have readable : Json.membersReadable (Wire.depthLimit - level) members = true :=
    gives.membersReadable fun _ member => isReadable_of_mem_fields member _
  obtain ⟨slot, retriedNamed, retried⟩ := gives.slot List.mem_cons_self
  obtain ⟨slots, named, found⟩ := gives.slots fun field (member : field ∈ job.row.fields) =>
    List.mem_cons_of_mem _ member
  have rowRead : (Wire.memberSlots? Row.fieldNames members).bind (Row.ofSlots? .buffered) =
      some job.row := by
    have named : Wire.memberSlots? Row.fieldNames members = some slots := named
    rw [named, Option.bind_some, Row.ofSlots?_of_found found]
  have retriedNamed : Wire.slotNamed? members "retried" = some slot := retriedNamed
  simp only [RecordedJob.ofJson?, readable, if_true, retriedNamed, retried.flag, rowRead,
    Option.bind_eq_bind, Option.bind_some]

/-- A recorded job with the members of an object that gives it. -/
structure Written where
  job : RecordedJob
  members : List (Json.Key × Json)
  gives : Wire.Gives job.fields members

/-- The rows of recorded jobs that no later attempt replaced. -/
def kept (jobs : List RecordedJob) : List Row :=
  (jobs.filter fun job => !job.retried).map RecordedJob.row

end RecordedJob

/-! ## Pipelines -/

/-- An export with the written form of each of its jobs. -/
abbrev Export.Written := List (PipelineId × List RecordedJob.Written)

namespace Export

namespace Written

/-- What the export holds. -/
def content (written : Written) : Export :=
  written.map fun entry => (entry.1, entry.2.map RecordedJob.Written.job)

/-- The rows of the export that no later attempt replaced. -/
def kept (written : Written) : List (PipelineId × List Row) :=
  written.content.map fun entry => (entry.1, RecordedJob.kept entry.2)

/-- The jobs as they are written, under the decimal ids of their pipelines. -/
def entries (written : Written) : List (Json.Key × Json) :=
  written.map fun entry => (.ofString (toString entry.1.val.toNat),
    .array (entry.2.map fun job => .object job.members))

/-- The one field of the export as it is written. -/
def fields (written : Written) : List Wire.Field :=
  [⟨"pipelines", .object written.entries, false⟩]

end Written

theorem pipelines?_entries (written : Written) :
    pipelines? (.object written.entries) = some written.content := by
  apply Wire.mapM_map_of_reads
  intro entry _
  have numeral := Wire.numeral?_toString entry.1.val.toNat_lt
  have jobs : Wire.list? RecordedJob.ofJson? (.array (entry.2.map fun job => .object job.members)) =
      some (entry.2.map RecordedJob.Written.job) :=
    Wire.mapM_map_of_reads fun job _ => RecordedJob.ofJson?_of_gives job.gives
  simp only [numeral, jobs, Option.bind_eq_bind, Option.bind_some]
  simp

/-- An export is read from any object that gives it. -/
theorem ofJson?_of_gives {written : Written} {members : List (Json.Key × Json)}
    (gives : Wire.Gives written.fields members) :
    Export.ofJson? (.object members) = some written.content := by
  obtain ⟨slots, named, found⟩ := gives.slots fun _ member => member
  have named : Wire.slots? ["pipelines"] (.object members) = some slots := named
  obtain _ | ⟨pipelines, _ | _⟩ := found
  have read := pipelines.required rfl (pipelines?_entries written)
  simp only [Export.ofJson?, named, read, Option.bind_eq_bind, Option.bind_some]

/-- What cannot be read of one job cannot be read of the export. -/
theorem ofJson?_eq_none_of_job {members entries : List (Json.Key × Json)} {key label : Json.Key}
    {items : List Json} {item : Json} (holds : (key, .object entries) ∈ members)
    (named : key.text = some "pipelines") (listed : (label, .array items) ∈ entries)
    (member : item ∈ items) (fails : RecordedJob.ofJson? item = none) :
    Export.ofJson? (.object members) = none := by
  have pipelines : pipelines? (.object entries) = none := by
    apply Wire.mapM_eq_none_of_mem listed
    have jobs : Wire.list? RecordedJob.ofJson? (.array items) = none :=
      Wire.mapM_eq_none_of_mem member fails
    cases Wire.numeral? (Nat.pow 2 64) label <;> simp [jobs]
  rw [Export.ofJson?, Wire.slots?]
  rcases Wire.memberSlots?_of_mem holds named with given | none
  · simp [given, Wire.Slot.required, pipelines]
  · simp [none]

end Export

/-! ## Sources -/

/-- Where an item is looked up by its key, what comes with the key may be changed before
or after. -/
theorem find?_reverse_map_snd {κ α β : Type} [DecidableEq κ] (items : List (κ × α))
    (f : α → β) (key : κ) :
    (items.map fun item => (item.1, f item.2)).reverse.find? (fun item => item.1 = key) =
      (items.reverse.find? fun item => item.1 = key).map fun item => (item.1, f item.2) := by
  rw [← List.map_reverse, List.find?_map]
  rfl

namespace Export

theorem rowsOf_eq (document : Export) (pipeline : PipelineId) :
    document.rowsOf pipeline = sortByPosition (RecordedJob.kept (document.jobsOf pipeline)) :=
  rfl

namespace Written

variable {written : Written} {pipeline : PipelineId}

theorem jobsOf_content_of_mem {jobs : List RecordedJob.Written}
    (distinct : (written.map Prod.fst).Nodup) (listed : (pipeline, jobs) ∈ written) :
    written.content.jobsOf pipeline = jobs.map RecordedJob.Written.job := by
  have found := (find?_reverse_eq_some distinct).mpr ⟨listed, rfl⟩
  rw [jobsOf, content, find?_reverse_map_snd, found]
  rfl

theorem jobsOf_content_of_not_mem (unlisted : pipeline ∉ written.map Prod.fst) :
    written.content.jobsOf pipeline = [] := by
  have missed : written.reverse.find? (fun entry => entry.1 = pipeline) = none := by
    apply List.find?_eq_none.mpr
    intro entry member same
    exact unlisted (List.mem_map.mpr ⟨entry, List.mem_reverse.mp member, of_decide_eq_true same⟩)
  rw [jobsOf, content, find?_reverse_map_snd, missed]
  rfl

end Written

end Export

namespace Source

/-- What is held for a pipeline is what is kept of its jobs. -/
theorem memory_fetch {written : Export.Written} {held : List (PipelineId × List Row)}
    (distinct : (written.map Prod.fst).Nodup) (holds : held.Perm written.kept)
    (number : Nat) (pipeline : PipelineId) :
    (memory held).fetch number pipeline = .rows (written.content.rowsOf pipeline) := by
  have distinctKept : (written.kept.map Prod.fst).Nodup := by
    simpa [Export.Written.kept, Export.Written.content, Function.comp_def] using distinct
  have distinctHeld := (holds.map Prod.fst).nodup_iff.mpr distinctKept
  simp only [memory]
  rw [find?_reverse_perm holds distinctHeld, Export.Written.kept, find?_reverse_map_snd,
    Export.rowsOf_eq, Export.jobsOf]
  cases written.content.reverse.find? (fun entry => entry.1 = pipeline) <;> rfl

theorem recorded_fetch {octets : List UInt8} {members : List (Json.Key × Json)}
    {written : Export.Written} (reads : Json.ofOctets? octets = some (.object members))
    (gives : Wire.Gives written.fields members) (number : Nat) (pipeline : PipelineId) :
    (recorded octets).fetch number pipeline = .rows (written.content.rowsOf pipeline) := by
  simp only [recorded, fetchExport, reads, Option.bind_some, Export.ofJson?_of_gives gives]

/-- The octets of an export and the rows in memory are the same source.  Whatever object
gives the export, with whatever order and defaults, each fetch has the rows that no later
attempt replaced, in stage order and those of one stage as they were recorded.  If one
recorded job cannot be read, no fetch has any rows. -/
theorem recorded_agrees_with_memory {octets : List UInt8} {members : List (Json.Key × Json)}
    (reads : Json.ofOctets? octets = some (.object members)) :
    (∀ (written : Export.Written) (held : List (PipelineId × List Row)),
      Wire.Gives written.fields members → (written.map Prod.fst).Nodup →
      held.Perm written.kept → ∀ number pipeline,
        (recorded octets).fetch number pipeline = (memory held).fetch number pipeline ∧
        (∀ jobs, (pipeline, jobs) ∈ written → ∃ rows,
          (recorded octets).fetch number pipeline = .rows rows ∧ InStageOrder rows ∧
          ∀ position, rows.filter (fun row => row.position = position) =
            (RecordedJob.kept (jobs.map RecordedJob.Written.job)).filter fun row =>
              row.position = position) ∧
        (pipeline ∉ written.map Prod.fst →
          (recorded octets).fetch number pipeline = .rows [])) ∧
    (∀ key entries label items item, (key, .object entries) ∈ members →
      key.text = some "pipelines" → (label, .array items) ∈ entries → item ∈ items →
      RecordedJob.ofJson? item = none → ∀ number pipeline, ∃ reason,
        (recorded octets).fetch number pipeline = .fault (.malformed reason)) := by
  constructor
  · intro written held gives distinct holds number pipeline
    have fetched := recorded_fetch reads gives number pipeline
    refine ⟨?_, ?_, ?_⟩
    · rw [fetched, memory_fetch distinct holds]
    · intro jobs listed
      refine ⟨_, fetched, sortByPosition_inStageOrder _, ?_⟩
      intro position
      rw [Export.rowsOf_eq, filter_sortByPosition,
        Export.Written.jobsOf_content_of_mem distinct listed]
    · intro unlisted
      rw [fetched, Export.rowsOf_eq, Export.Written.jobsOf_content_of_not_mem unlisted]
      rfl
  · intro key entries label items item holds named listed member fails number pipeline
    have unread : Export.ofJson? (.object members) = none :=
      Export.ofJson?_eq_none_of_job holds named listed member fails
    simp only [recorded, fetchExport, reads, Option.bind_some, unread]
    exact ⟨_, rfl⟩

/-! ### An export with an attempt and one that is broken -/

/-- An attempt that a later one replaced. -/
def attempt : RecordedJob.Written where
  job := ⟨.fresh ⟨7⟩ "u" .failed 2, true⟩
  members :=
    [ (.ofString "id", .ofNat 7), (.ofString "name", .ofString "u"),
      (.ofString "status", .ofString "failed"), (.ofString "stage_position", .ofNat 2),
      (.ofString "retried", .bool true) ]
  gives :=
    { texts := by decide
      given := by decide
      plain := by
        simp only [List.forall_mem_cons]
        exact ⟨absurd (by decide), absurd (by decide), absurd (by decide), absurd (by decide),
          absurd (by decide), List.forall_mem_nil _⟩ }

/-- The last attempt, without the fields that have their default and beside a member that no
record knows. -/
def lastAttempt : RecordedJob.Written where
  job := ⟨.fresh ⟨8⟩ "u" .manual 2, false⟩
  members :=
    [ (.ofString "stage_position", .ofNat 2), (.ofString "n", .null),
      (.ofString "status", .ofString "manual"), (.ofString "name", .ofString "u"),
      (.ofString "id", .ofNat 8) ]
  gives :=
    { texts := by decide
      given := by decide
      plain := by
        simp only [List.forall_mem_cons]
        exact ⟨absurd (by decide), fun _ => .null, absurd (by decide), absurd (by decide),
          absurd (by decide), List.forall_mem_nil _⟩ }

def attempts : List UInt8 :=
  ("\x7b\"pipelines\":\x7b\"3\":[" ++
    "\x7b\"id\":7,\"name\":\"u\",\"status\":\"failed\",\"stage_position\":2," ++
    "\"retried\":true\x7d," ++
    "\x7b\"stage_position\":2,\"n\":null,\"status\":\"manual\",\"name\":\"u\",\"id\":8\x7d" ++
    "]\x7d\x7d").toUTF8.toList

/-- An export with a job that is no object. -/
def broken : List UInt8 :=
  "\x7b\"pipelines\":\x7b\"4\":[0]\x7d\x7d".toUTF8.toList

theorem recorded_agrees_with_memory_attempts :
    (recorded attempts).fetch 0 ⟨3⟩ =
        (memory [(⟨3⟩, [.fresh ⟨8⟩ "u" .manual 2])]).fetch 0 ⟨3⟩ ∧
      ∃ reason, (recorded broken).fetch 0 ⟨3⟩ = .fault (.malformed reason) := by
  let written : Export.Written := [(⟨3⟩, [attempt, lastAttempt])]
  have read : Json.ofOctets? attempts =
      some (.object [(.ofString "pipelines", .object written.entries)]) := by
    decide +kernel
  have gives : Wire.Gives written.fields [(.ofString "pipelines", .object written.entries)] :=
    { texts := by decide
      given := List.forall_mem_singleton.mpr (.inl rfl)
      plain := List.forall_mem_singleton.mpr (absurd (by decide)) }
  have readBroken : Json.ofOctets? broken = some (.object
      [(.ofString "pipelines", .object [(.ofString "4", .array [.ofNat 0])])]) := by
    decide +kernel
  constructor
  · exact ((recorded_agrees_with_memory read).1 written _ gives (by decide) (.refl _) 0 ⟨3⟩).1
  · exact (recorded_agrees_with_memory readBroken).2 _ _ _ _ _ List.mem_cons_self rfl
      List.mem_cons_self List.mem_cons_self rfl 0 ⟨3⟩

end Source

end Rollup
