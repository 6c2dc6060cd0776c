import Rollup.Memo
import Rollup.Wire.Settings
import Rollup.Proofs.Exports
import Rollup.Proofs.MemberOrder
import Rollup.Proofs.Pass.Transcript

/-!
# Round trips

What is written of a value is read back as the value.  An object answers for each of its
names with what stands there, so a record comes back field by field, also when its members
are put into another order on the way.  What tells the kind of a tagged record shares the
object with the fields, and is taken out of it first.  The statuses of stages stand under
numerals, by ascending position, and come back one behind the other.

Whatever is read, in whatever form, is a value that can be written, so it is read again as
it is when it is written.
-/

namespace Rollup

namespace Wire

/-! ## Objects -/

/-- Under each of distinct names stands one value. -/
theorem filter_named {members : List (String × Json)} (distinct : (members.map Prod.fst).Nodup)
    {field : String × Json} (member : field ∈ members) :
    (members.map fun (name, value) => (Json.Key.ofString name, value)).filter
        (fun member => member.1.text == some field.1) =
      [(.ofString field.1, field.2)] := by
  have only := filter_key_eq_singleton distinct member
  rw [List.filter_map]
  have same : members.filter ((fun member : Json.Key × Json => member.1.text == some field.1) ∘
      fun other => (.ofString other.1, other.2)) = [field] := by
    rw [← only]
    apply List.filter_congr
    intro other _
    exact Bool.eq_iff_iff.mpr (by simp [Json.Key.ofString])
  rw [same]
  rfl

/-- A record that is written with the fields by which it is read gives all of them. -/
theorem slots?_record {names : List String} {members : List (String × Json)}
    (named : members.map Prod.fst = names) (distinct : names.Nodup) :
    slots? names (.ofMembers members) = some (members.map fun field => .given field.2) := by
  have texts : ∀ member ∈ members.map (fun (name, value) => (Json.Key.ofString name, value)),
      member.1.text.isSome = true := by
    intro member among
    obtain ⟨field, _, rfl⟩ := List.mem_map.mp among
    rfl
  rw [Json.ofMembers, slots?, memberSlots?, if_pos (List.all_eq_true.mpr texts), ← named]
  apply mapM_map_of_reads
  intro field member
  rw [slotNamed?, filter_named (named ▸ distinct) member]

/-- An object that says of what kind it is, and is readable, is read as what it says besides. -/
theorem tagged?_ofMembers {members : List (String × Json)} {tag : String}
    (distinct : (members.map Prod.fst).Nodup) (kind : ("type", .ofString tag) ∈ members)
    (readable : ∀ field ∈ members, Json.isReadable (depthLimit - 1) field.2 = true) :
    tagged? (.ofMembers members) =
      some ⟨tag, .ofMembers (members.filter fun field => field.1 != "type")⟩ := by
  let isTag : Json.Key × Json → Bool := fun member => member.1.text == some "type"
  let written := members.map fun (name, value) => (Json.Key.ofString name, value)
  have tags : written.filter isTag = [(.ofString "type", .ofString tag)] :=
    filter_named distinct kind
  have content : written.filter (fun member => !isTag member) =
      (members.filter fun field => field.1 != "type").map fun (name, value) =>
        (.ofString name, value) := by
    rw [List.filter_map]
    rfl
  have contentReadable : Json.membersReadable (depthLimit - 1)
      (written.filter fun member => !isTag member) = true := by
    apply membersReadable_iff.mpr
    intro member among
    obtain ⟨field, inMembers, rfl⟩ := List.mem_map.mp (List.mem_filter.mp among).1
    exact ⟨rfl, readable field inMembers⟩
  rw [content] at contentReadable
  simp only [written, isTag, Json.ofString] at tags content contentReadable
  simp only [Json.ofMembers, tagged?, tags, content, contentReadable, if_true]

/-- What gives all fields is found to give each of them. -/
theorem Found.of_given (fields : List Field) :
    Found fields (fields.map fun field => .given field.value) := by
  induction fields with
  | nil => exact .nil
  | cons field rest ih => exact .cons .given ih

end Wire

/-! ## Records -/

theorem Entry.ofJson?_toJson (entry : Entry) : ofJson? entry.toJson = some entry := by
  have slots : Wire.slots? ["status", "allow_failure"] entry.toJson =
      some [.given (Wire.ofStatus entry.status), .given (.bool entry.allowFailure)] :=
    Wire.slots?_record rfl (by decide)
  simp only [ofJson?, slots, Wire.Slot.required, Wire.status?_ofStatus, Wire.bool?,
    Option.bind_eq_bind, Option.bind_some]

theorem Composite.ofJson?_toJson (composite : Composite) :
    ofJson? composite.toJson = some composite := by
  have slots : Wire.slots? ["status", "warnings"] composite.toJson =
      some [.given (Wire.ofStatus composite.status), .given (.bool composite.warnings)] :=
    Wire.slots?_record rfl (by decide)
  simp only [ofJson?, slots, Wire.Slot.required, Wire.status?_ofStatus, Wire.bool?,
    Option.bind_eq_bind, Option.bind_some]

theorem Update.ofJson?_toJson (update : Update) : ofJson? update.toJson = some update := by
  have slots : Wire.slots? ["status", "token"] update.toJson =
      some [.given (Wire.ofStatus update.status), .given (Wire.ofWord update.token.val)] :=
    Wire.slots?_record rfl (by decide)
  simp only [ofJson?, slots, Wire.Slot.required, Wire.status?_ofStatus, Wire.word?_ofWord,
    Option.bind_eq_bind, Option.bind_some]

theorem Row.ofJson?_toJson (row : Row) : ofJson? row.toJson = some row := by
  have slots : Wire.slots? fieldNames row.toJson =
      some (row.fields.map fun field => .given field.value) := by
    rw [toJson_eq]
    exact Wire.slots?_record rfl (by decide)
  rw [ofJson?, slots, Option.bind_some]
  exact ofSlots?_of_found (.of_given _) .direct

theorem Settings.ofJson?_toJson {settings : Settings}
    (fits : settings.batchSize < Nat.pow 2 64) : ofJson? settings.toJson = some settings := by
  have slots : Wire.slots?
      ["dag_legacy_blocking", "dependency_tree_for_dag", "processed_batch_size"] settings.toJson =
        some [.given (.bool settings.legacyBlocking), .given (.bool settings.dependencyTree),
          .given (.ofNat settings.batchSize)] :=
    Wire.slots?_record rfl (by decide)
  simp only [ofJson?, slots, Wire.Slot.withDefault, Wire.bool?, Wire.natBelow?_ofNat fits,
    Option.bind_eq_bind, Option.bind_some]

theorem MemoStats.ofJson?_toJson {stats : MemoStats} (hits : stats.hits < Nat.pow 2 64)
    (misses : stats.misses < Nat.pow 2 64) (invalidations : stats.invalidations < Nat.pow 2 64) :
    ofJson? stats.toJson = some stats := by
  have slots : Wire.slots? ["hits", "misses", "invalidations"] stats.toJson =
      some [.given (.ofNat stats.hits), .given (.ofNat stats.misses),
        .given (.ofNat stats.invalidations)] :=
    Wire.slots?_record rfl (by decide)
  simp only [ofJson?, slots, Wire.Slot.required, Wire.natBelow?_ofNat hits,
    Wire.natBelow?_ofNat misses, Wire.natBelow?_ofNat invalidations, Option.bind_eq_bind,
    Option.bind_some]

/-! ## Tagged records -/

theorem Scheduling.ofJson?_toJson (scheduling : Scheduling) :
    ofJson? scheduling.toJson = some scheduling := by
  cases scheduling with
  | stage =>
      have tagged : Wire.tagged? (toJson .stage) = some ⟨"stage", .ofMembers []⟩ :=
        Wire.tagged?_ofMembers (by decide) List.mem_cons_self (by simp)
      simp only [ofJson?, tagged, Option.bind_eq_bind, Option.bind_some, if_true]
      rfl
  | dag needs =>
      have readable :
          Json.isReadable (Wire.depthLimit - 1) (.array (needs.map .ofString)) = true := by
        apply Wire.allReadable_iff.mpr
        simp
      have tagged : Wire.tagged? (toJson (.dag needs)) =
          some ⟨"dag", .ofMembers [("needs", .array (needs.map .ofString))]⟩ :=
        Wire.tagged?_ofMembers (by simp) List.mem_cons_self (by simp [readable])
      have slots : Wire.slots? ["needs"] (.ofMembers [("needs", .array (needs.map .ofString))]) =
          some [.given (.array (needs.map .ofString))] :=
        Wire.slots?_record rfl (by decide)
      have read : Wire.list? Wire.text? (.array (needs.map .ofString)) = some needs :=
        Wire.list?_array Wire.text?_ofString needs
      simp only [ofJson?, tagged, slots, Wire.Slot.required, read, Option.bind_eq_bind,
        Option.bind_some, if_true]
      rfl

theorem Event.ofJson?_toJson (event : Event) : ofJson? event.toJson = some event := by
  cases event with
  | jobReleased pipeline job dependency status =>
      let fields :=
        [ ("pipeline", Wire.ofWord pipeline.val), ("job_id", Wire.ofWord job.val),
          ("dependency_status", Wire.ofStatus dependency), ("status", Wire.ofStatus status) ]
      have tagged : Wire.tagged? (toJson (.jobReleased pipeline job dependency status)) =
          some ⟨"job_released", .ofMembers fields⟩ :=
        Wire.tagged?_ofMembers (by simp [members]) List.mem_cons_self (by simp [members])
      have slots : Wire.slots? ["pipeline", "job_id", "dependency_status", "status"]
          (.ofMembers fields) =
            some [.given (Wire.ofWord pipeline.val), .given (Wire.ofWord job.val),
              .given (Wire.ofStatus dependency), .given (Wire.ofStatus status)] :=
        Wire.slots?_record rfl (by decide)
      simp only [ofJson?, tagged, slots, Wire.Slot.required, Wire.word?_ofWord,
        Wire.status?_ofStatus, Option.bind_eq_bind, Option.bind_some, if_true]
  | stageResolved pipeline position status =>
      let fields :=
        [ ("pipeline", Wire.ofWord pipeline.val), ("stage_position", Wire.ofPosition position),
          ("status", Wire.ofStatus status) ]
      have tagged : Wire.tagged? (toJson (.stageResolved pipeline position status)) =
          some ⟨"stage_resolved", .ofMembers fields⟩ :=
        Wire.tagged?_ofMembers (by simp [members]) List.mem_cons_self (by simp [members])
      have slots : Wire.slots? ["pipeline", "stage_position", "status"] (.ofMembers fields) =
          some [.given (Wire.ofWord pipeline.val), .given (Wire.ofPosition position),
            .given (Wire.ofStatus status)] :=
        Wire.slots?_record rfl (by decide)
      simp only [ofJson?, tagged, slots, Wire.Slot.required, Wire.word?_ofWord,
        Wire.position?_ofPosition, Wire.status?_ofStatus, Option.bind_eq_bind, Option.bind_some,
        if_true]
      rfl
  | pipelineResolved pipeline composite =>
      let fields :=
        [ ("pipeline", Wire.ofWord pipeline.val), ("status", Wire.ofStatus composite.status),
          ("warnings", .bool composite.warnings) ]
      have tagged : Wire.tagged? (toJson (.pipelineResolved pipeline composite)) =
          some ⟨"pipeline_resolved", .ofMembers fields⟩ :=
        Wire.tagged?_ofMembers (by simp [members]) List.mem_cons_self (by simp [members])
      have slots : Wire.slots? ["pipeline", "status", "warnings"] (.ofMembers fields) =
          some [.given (Wire.ofWord pipeline.val), .given (Wire.ofStatus composite.status),
            .given (.bool composite.warnings)] :=
        Wire.slots?_record rfl (by decide)
      simp only [ofJson?, tagged, slots, Wire.Slot.required, Wire.word?_ofWord,
        Wire.bool?, Wire.status?_ofStatus, Option.bind_eq_bind, Option.bind_some, if_true]
      rfl

theorem Event.ofJson?_payload (event : Event) : ofJson? event.payload = some event :=
  (readsAnyOrder.ofMembersByKey event.members).trans event.ofJson?_toJson

/-! ## Reports -/

namespace StageStatuses

/-- The statuses after one more member of an object. -/
def read? (statuses : StageStatuses) (member : Json.Key × Json) : Option StageStatuses := do
  let position ← Wire.numeral? (Nat.pow 2 32) member.1
  let status ← Wire.status? .direct member.2
  some (statuses.insert position.toUInt32 status)

theorem ofJson?_object (members : List (Json.Key × Json)) :
    ofJson? (.object members) = members.foldlM read? empty :=
  rfl

/-- A status is written as a member that is read behind those of lower positions. -/
theorem read?_behind {kept : StageStatuses} {entry : Position × Status}
    (later : ∀ other ∈ kept.entries, other.1 < entry.1) :
    ∃ next, kept.read? (.ofString (toString entry.1.toNat), Wire.ofStatus entry.2) = some next ∧
      next.entries = kept.entries ++ [entry] := by
  have numeral := Wire.numeral?_toString entry.1.toNat_lt
  refine ⟨kept.insert entry.1 entry.2, ?_, entries_insert_of_lt later⟩
  have position : entry.1.toNat.toUInt32 = entry.1 := UInt32.ofNat_toNat
  simp only [read?, numeral, Wire.status?_ofStatus, Option.bind_eq_bind, Option.bind_some, position]

/-- Statuses of which some are read already are read to their end. -/
theorem foldlM_read? {statuses kept : StageStatuses} {rest : List (Position × Status)}
    (whole : kept.entries ++ rest = statuses.entries) :
    (rest.map fun entry => (Json.Key.ofString (toString entry.1.toNat),
      Wire.ofStatus entry.2)).foldlM read? kept = some statuses := by
  induction rest generalizing kept with
  | nil =>
      rw [List.append_nil] at whole
      exact congrArg some (eq_of_entries whole)
  | cons entry rest ih =>
      have ascending := statuses.ascending
      rw [← whole] at ascending
      have later : ∀ other ∈ kept.entries, other.1 < entry.1 := fun other member =>
        (List.pairwise_append.mp ascending).2.2 other member entry List.mem_cons_self
      obtain ⟨next, read, entries⟩ := read?_behind later
      rw [List.map_cons, List.foldlM_cons, read]
      apply ih
      rw [entries, List.append_assoc]
      exact whole

theorem ofJson?_toJson (statuses : StageStatuses) : ofJson? statuses.toJson = some statuses := by
  rw [toJson, Json.ofMembers, ofJson?_object, List.map_map]
  exact foldlM_read? (List.nil_append _)

end StageStatuses

/-- The duration is read as it is written. -/
def Duration.Returns (duration : Duration) : Prop :=
  ofNumber? duration.toNumber = some duration

instance (duration : Duration) : Decidable duration.Returns :=
  inferInstanceAs (Decidable (_ = _))

namespace Report

/-- Null is read as nothing, and what is not null as what was written. -/
theorem nullable_orNull {α : Type} {toJson : α → Json} {read? : Json → Option α}
    (reads : ∀ value, read? (toJson value) = some value)
    (notNull : ∀ value, toJson value ≠ .null) (value : Option α) :
    Wire.Slot.nullable read? (.given (orNull toJson value)) = some value := by
  cases value with
  | none => rfl
  | some value =>
      rw [orNull, Wire.Slot.nullable.eq_def]
      split
      · rename_i null
        exact absurd (Wire.Slot.given.inj null) (notNull value)
      · rename_i given
        rw [← Wire.Slot.given.inj given, reads, Option.map_some]
      · rename_i impossible
        cases impossible
      · rename_i impossible
        cases impossible

theorem ofJson?_toJson {report : Report} (returns : report.duration.Returns)
    (fits : report.processed < Nat.pow 2 64) : ofJson? report.toJson = some report := by
  have slots : Wire.slots? fieldNames report.toJson =
      some [.given (.ofString report.runId.text), .given (Wire.ofWord report.pipeline.val),
        .given (.ofString report.startedAt.text),
        .given (orNull (fun moment => .ofString moment.text) report.finishedAt),
        .given (.number report.duration.toNumber),
        .given (.array (report.released.map fun id => Wire.ofWord id.val)),
        .given report.stageStatuses.toJson,
        .given (orNull Composite.toJson report.pipelineStatus),
        .given (.ofNat report.processed)] :=
    Wire.slots?_record rfl (by decide)
  have moments : ∀ moment : Moment, moment? (.ofString moment.text) = some moment := by
    intro moment
    rw [moment?, Wire.text?_ofString, Option.bind_some, Moment.ofText?_text]
  have finishedAt := nullable_orNull moments (by simp [Json.ofString]) report.finishedAt
  have pipelineStatus := nullable_orNull Composite.ofJson?_toJson
    (by simp [Composite.toJson, Json.ofMembers]) report.pipelineStatus
  have duration : duration? (.number report.duration.toNumber) = some report.duration := returns
  have released : Wire.list? (fun item => (Wire.word? item).map JobId.mk)
      (.array (report.released.map fun id => Wire.ofWord id.val)) = some report.released :=
    Wire.list?_array (fun id => by rw [Wire.word?_ofWord, Option.map_some]) report.released
  simp only [ofJson?, slots, Wire.Slot.required, Wire.text?_ofString, RunId.ofText?_text,
    Wire.word?_ofWord, moments, finishedAt, duration, released, StageStatuses.ofJson?_toJson,
    pipelineStatus, Wire.natBelow?_ofNat fits, Option.bind_eq_bind, Option.bind_some]

end Report

/-! ## What is read -/

namespace Wire

theorem lt_of_natBelow? {bound value : Nat} {json : Json}
    (reads : natBelow? bound json = some value) : value < bound := by
  rw [natBelow?.eq_def] at reads
  split at reads
  · obtain ⟨_, below⟩ := Option.filter_eq_some_iff.mp reads
    exact of_decide_eq_true below
  · cases reads

variable {slot : Slot} {bound value : Nat}

theorem Slot.lt_of_required (reads : slot.required (natBelow? bound) = some value) :
    value < bound := by
  cases slot with
  | given json => exact lt_of_natBelow? reads
  | unnamed => cases reads
  | cutOff => cases reads

theorem Slot.lt_of_withDefault {default : Nat} (small : default < bound)
    (reads : slot.withDefault default (natBelow? bound) = some value) : value < bound := by
  cases slot with
  | given json => exact lt_of_natBelow? reads
  | unnamed => exact Option.some.inj reads ▸ small
  | cutOff => exact Option.some.inj reads ▸ small

end Wire

theorem Settings.batchSize_lt {json : Json} {settings : Settings}
    (read : ofJson? json = some settings) : settings.batchSize < Nat.pow 2 64 := by
  simp only [ofJson?, Option.bind_eq_bind, Option.bind_eq_some_iff] at read
  obtain ⟨slots, _, matched⟩ := read
  split at matched
  · simp only [Option.bind_eq_some_iff, Option.some.injEq] at matched
    obtain ⟨_, _, _, _, batchSize, sizeRead, rfl⟩ := matched
    exact Wire.Slot.lt_of_withDefault (by decide) sizeRead
  · cases matched

theorem MemoStats.lt_of_ofJson? {json : Json} {stats : MemoStats}
    (read : ofJson? json = some stats) :
    stats.hits < Nat.pow 2 64 ∧ stats.misses < Nat.pow 2 64 ∧
      stats.invalidations < Nat.pow 2 64 := by
  simp only [ofJson?, Option.bind_eq_bind, Option.bind_eq_some_iff] at read
  obtain ⟨slots, _, matched⟩ := read
  split at matched
  · simp only [Option.bind_eq_some_iff, Option.some.injEq] at matched
    obtain ⟨_, hits, _, misses, _, invalidations, rfl⟩ := matched
    exact ⟨Wire.Slot.lt_of_required hits, Wire.Slot.lt_of_required misses,
      Wire.Slot.lt_of_required invalidations⟩
  · cases matched

theorem Report.processed_lt {json : Json} {report : Report}
    (read : ofJson? json = some report) : report.processed < Nat.pow 2 64 := by
  simp only [ofJson?, Option.bind_eq_bind, Option.bind_eq_some_iff] at read
  obtain ⟨slots, _, matched⟩ := read
  split at matched
  · simp only [Option.bind_eq_some_iff, Option.some.injEq] at matched
    obtain ⟨_, _, _, _, _, _, _, _, _, _, _, _, _, _, _, _, _, processed, rfl⟩ := matched
    exact Wire.Slot.lt_of_required processed
  · cases matched

/-! ## All values -/

namespace Wire

/-- Values that fit are read as they are written, a value that was read is read again when
it is written, and the members of an object can be put into another order before. -/
structure RoundTrips {α : Type} (toJson : α → Json) (ofJson? : Json → Option α)
    (fits : α → Prop) : Prop where
  written : ∀ value, fits value → ofJson? (toJson value) = some value
  read : ∀ json value, ofJson? json = some value → ofJson? (toJson value) = some value
  reordered : ReadsAnyOrder ofJson?

/-- Only what fits is read. -/
theorem RoundTrips.of_fits {α : Type} {toJson : α → Json} {ofJson? : Json → Option α}
    {fits : α → Prop} (written : ∀ value, fits value → ofJson? (toJson value) = some value)
    (reads : ∀ json value, ofJson? json = some value → fits value)
    (reordered : ReadsAnyOrder ofJson?) : RoundTrips toJson ofJson? fits where
  written := written
  read json value given := written value (reads json value given)
  reordered := reordered

/-- Every value fits. -/
theorem RoundTrips.of_all {α : Type} {toJson : α → Json} {ofJson? : Json → Option α}
    (written : ∀ value, ofJson? (toJson value) = some value)
    (reordered : ReadsAnyOrder ofJson?) : RoundTrips toJson ofJson? (fun _ => True) :=
  .of_fits (fun value _ => written value) (fun _ _ _ => trivial) reordered

/-- Every value is read as it is written, where its counters are words, and every value that
was read is read again when it is written.  An event is read as well when it is written by its
keys, and no reader asks for the order of members.  Of a report this holds if it does of its
duration, which is a measured quantity. -/
theorem values_round_trip :
    RoundTrips Row.toJson Row.ofJson? (fun _ => True) ∧
    RoundTrips Entry.toJson Entry.ofJson? (fun _ => True) ∧
    RoundTrips Composite.toJson Composite.ofJson? (fun _ => True) ∧
    RoundTrips Update.toJson Update.ofJson? (fun _ => True) ∧
    RoundTrips Scheduling.toJson Scheduling.ofJson? (fun _ => True) ∧
    RoundTrips Event.toJson Event.ofJson? (fun _ => True) ∧
    RoundTrips Event.payload Event.ofJson? (fun _ => True) ∧
    RoundTrips Settings.toJson Settings.ofJson?
      (fun settings => settings.batchSize < Nat.pow 2 64) ∧
    RoundTrips MemoStats.toJson MemoStats.ofJson? (fun stats =>
      stats.hits < Nat.pow 2 64 ∧ stats.misses < Nat.pow 2 64 ∧
        stats.invalidations < Nat.pow 2 64) ∧
    (∀ report : Report, report.duration.Returns →
      (report.processed < Nat.pow 2 64 → Report.ofJson? report.toJson = some report) ∧
      ∀ json, Report.ofJson? json = some report →
        Report.ofJson? report.toJson = some report) ∧
    ReadsAnyOrder Report.ofJson? := by
  refine ⟨.of_all Row.ofJson?_toJson (.of_slots fun _ => rfl),
    .of_all Entry.ofJson?_toJson (.of_slots fun _ => rfl),
    .of_all Composite.ofJson?_toJson (.of_slots fun _ => rfl),
    .of_all Update.ofJson?_toJson (.of_slots fun _ => rfl),
    .of_all Scheduling.ofJson?_toJson Scheduling.readsAnyOrder,
    .of_all Event.ofJson?_toJson Event.readsAnyOrder,
    .of_all Event.ofJson?_payload Event.readsAnyOrder, ?settings, ?stats, ?report,
    .of_slots fun _ => rfl⟩
  case settings =>
    exact .of_fits (fun _ fits => Settings.ofJson?_toJson fits) (fun _ _ => Settings.batchSize_lt)
      (.of_slots fun _ => rfl)
  case stats =>
    refine .of_fits ?_ (fun _ _ => MemoStats.lt_of_ofJson?) (.of_slots fun _ => rfl)
    rintro stats ⟨hits, misses, invalidations⟩
    exact MemoStats.ofJson?_toJson hits misses invalidations
  case report =>
    intro report returns
    refine ⟨Report.ofJson?_toJson returns, fun json read => ?_⟩
    exact Report.ofJson?_toJson returns (Report.processed_lt read)

/-- A report with ids, positions and counters at their ends, after a millisecond and a half. -/
theorem values_round_trip_report :
    let report : Report :=
      { runId := .zero
        pipeline := ⟨18446744073709551615⟩
        startedAt := .epoch
        finishedAt := some .epoch
        duration := ⟨false, ⟨1023 * Nat.pow 2 52 + Nat.pow 2 51, by decide⟩⟩
        released := [⟨0⟩, ⟨18446744073709551615⟩]
        stageStatuses := (StageStatuses.empty.insert 4294967295 .failed).insert 0 .success
        pipelineStatus := some ⟨.failed, true⟩
        processed := 18446744073709551615 }
    report.duration.Returns ∧ Report.ofJson? report.toJson = some report := by
  intro report
  have returns : report.duration.Returns := by
    decide +kernel
  obtain ⟨_, _, _, _, _, _, _, _, _, reports, _⟩ := values_round_trip
  exact ⟨returns, (reports report returns).1 (by decide)⟩

end Wire

end Rollup
