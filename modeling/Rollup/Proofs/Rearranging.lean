import Rollup.Proofs.Requests
import Rollup.Proofs.Shuffles

/-!
# Runs over rearranged rows

Two boards whose sources list the same rows in different orders are asked the same, one
request after the other, but for the order and the repetition of names and for names that
no row has.  They answer alike all the way.  One pair of requests is settled by cases, and a
run by induction.
-/

namespace Rollup

namespace Request

/-- Requests that ask the same where only some names are known.  A list of names may be in
another order, may repeat names and may hold unknown ones. -/
inductive Alike (known : List String) : Request → Request → Prop where
  | same {request : Request} (noPass : request.runsPass = false) : Alike known request request
  | forNames {names others : List String} (discipline : Discipline)
      (same : ∀ name ∈ known, name ∈ names ↔ name ∈ others) :
      Alike known (.forNames names discipline) (.forNames others discipline)

end Request

/-- Answers, none of them a failure, that are equal up to the order in which they list ids
and rows. -/
inductive Answer.Alike : Answer → Answer → Prop where
  | done : Alike .done .done
  | flag (value : Bool) : Alike (.flag value) (.flag value)
  | composite (composite : Composite) : Alike (.composite composite) (.composite composite)
  | status (status : Status) : Alike (.status status) (.status status)
  | positions (positions : List Position) : Alike (.positions positions) (.positions positions)
  | row (row? : Option Row) : Alike (.row row?) (.row row?)
  | ids {left right : List JobId} (perm : left.Perm right) : Alike (.ids left) (.ids right)
  | rows {left right : List Row} (perm : left.Perm right) : Alike (.rows left) (.rows right)

namespace Ledger

/-- The rows that a ledger has, or else would fetch now, in stage order. -/
inductive Gives (ledger : Ledger) : List Row → Prop where
  | kept {rows : List Row} (state : ledger.state = some (.ok rows)) : Gives ledger rows
  | fetch {rows : List Row} (unfetched : ledger.state = none)
      (fetched : ledger.source.fetch ledger.fetches ledger.pipeline = .rows rows) :
      Gives ledger (sortByPosition rows)

namespace Gives

variable {ledger : Ledger} {rows : List Row}

theorem load (gives : ledger.Gives rows) :
    ∃ after, ledger.load = (.ok ⟨rows, ledger.resolver⟩, after) ∧
      after.state = some (.ok rows) ∧ after.resolver = ledger.resolver := by
  cases gives with
  | kept state => exact ⟨ledger, by rw [Ledger.load, state], state, rfl⟩
  | fetch unfetched fetched =>
      refine ⟨{ ledger with
        fetches := ledger.fetches + 1, state := some (.ok (sortByPosition _)) }, ?_, rfl, rfl⟩
      rw [Ledger.load, unfetched]
      simp only [fetched]

theorem withResolver (gives : ledger.Gives rows) (resolver : Resolver) :
    { ledger with resolver }.Gives rows := by
  cases gives with
  | kept state => exact .kept state
  | fetch unfetched fetched => exact .fetch unfetched fetched

end Gives

/-- Two ledgers that resolve alike and give the same rows, whose names are known, each in an
order of its own. -/
structure Shuffle (known : List String) (left right : Ledger) : Prop where
  begun : left.state.isSome = right.state.isSome
  resolver : left.resolver = right.resolver
  rows : ∃ rows others, left.Gives rows ∧ right.Gives others ∧
    (⟨rows, left.resolver⟩ : Roster).Shuffle ⟨others, right.resolver⟩ ∧
    ∀ name ∈ rows.map Row.name, name ∈ known

namespace Shuffle

variable {known : List String} {left right : Ledger}

theorem of_rows {rows others : List Row} (leftState : left.state = some (.ok rows))
    (rightState : right.state = some (.ok others))
    (shuffle : (⟨rows, left.resolver⟩ : Roster).Shuffle ⟨others, right.resolver⟩)
    (names : ∀ name ∈ rows.map Row.name, name ∈ known) : Shuffle known left right where
  begun := by
    rw [leftState, rightState]
    rfl
  resolver := shuffle.resolver
  rows := ⟨rows, others, .kept leftState, .kept rightState, shuffle, names⟩

/-- Other ways to resolve, the same for both. -/
theorem withResolver (shuffle : Shuffle known left right) {first second : Resolver}
    (same : first = second) :
    Shuffle known { left with resolver := first } { right with resolver := second } := by
  obtain ⟨rows, others, gives, givesToo, shuffled, names⟩ := shuffle.rows
  exact ⟨shuffle.begun, same, rows, others, gives.withResolver first,
    givesToo.withResolver second, ⟨shuffled.rows, shuffled.ids, shuffled.names, same⟩, names⟩

/-- Both load, and are such ledgers after it. -/
theorem load (shuffle : Shuffle known left right) :
    ∃ first second after afterToo,
      left.load = (.ok first, after) ∧ right.load = (.ok second, afterToo) ∧
      first.Shuffle second ∧ (∀ name ∈ first.rows.map Row.name, name ∈ known) ∧
      Shuffle known after afterToo := by
  obtain ⟨rows, others, gives, givesToo, shuffled, names⟩ := shuffle.rows
  obtain ⟨after, loads, state, resolver⟩ := gives.load
  obtain ⟨afterToo, loadsToo, stateToo, resolverToo⟩ := givesToo.load
  refine ⟨_, _, after, afterToo, loads, loadsToo, shuffled, names, of_rows state stateToo ?_ names⟩
  rw [resolver, resolverToo]
  exact shuffled

/-- A question that shuffled rosters answer alike, and that leaves them shuffled and with
their names, is answered alike and leaves such ledgers. -/
theorem asked {α : Type} {wrap : α → Answer} {scan other : Roster → α × Roster}
    (shuffle : Shuffle known left right)
    (scans : ∀ {first second : Roster}, first.Shuffle second →
      (∀ name ∈ first.rows.map Row.name, name ∈ known) →
      Answer.Alike (wrap (scan first).1) (wrap (other second).1) ∧
        (scan first).2.Shuffle (other second).2 ∧
        (scan first).2.rows.map Row.name = first.rows.map Row.name) :
    Answer.Alike (answered wrap (left.query scan)).1 (answered wrap (right.query other)).1 ∧
      Shuffle known (answered wrap (left.query scan)).2
        (answered wrap (right.query other)).2 := by
  obtain ⟨first, second, after, afterToo, loads, loadsToo, shuffled, names, _⟩ := shuffle.load
  obtain ⟨alike, shuffledAfter, kept⟩ := scans shuffled names
  simp only [answered, query, loads, loadsToo]
  refine ⟨alike, of_rows rfl rfl shuffledAfter ?_⟩
  rw [kept]
  exact names

/-- So is a question that changes nothing. -/
theorem read {α : Type} {wrap : α → Answer} {ask : Roster → α}
    (shuffle : Shuffle known left right)
    (alike : ∀ {first second : Roster}, first.Shuffle second →
      Answer.Alike (wrap (ask first)) (wrap (ask second))) :
    Answer.Alike (answered wrap (left.query fun roster => (ask roster, roster))).1
        (answered wrap (right.query fun roster => (ask roster, roster))).1 ∧
      Shuffle known (answered wrap (left.query fun roster => (ask roster, roster))).2
        (answered wrap (right.query fun roster => (ask roster, roster))).2 :=
  shuffle.asked fun shuffled _ => ⟨alike shuffled, shuffled, rfl⟩

/-- So is a change of one job that leaves its id and its name alone. -/
theorem write (shuffle : Shuffle known left right) (id : JobId) (change : Row → Row)
    (keepsId : ∀ row, (change row).id = row.id) (keepsName : ∀ row, (change row).name = row.name)
    {scan : Roster → Bool × Roster}
    (scans : ∀ roster, scan roster =
      (decide (id ∈ roster.rows.map Row.id), roster.change id change)) :
    Answer.Alike (answered .flag (left.query scan)).1 (answered .flag (right.query scan)).1 ∧
      Shuffle known (answered .flag (left.query scan)).2
        (answered .flag (right.query scan)).2 := by
  apply shuffle.asked
  intro first second shuffled _
  rw [scans, scans, shuffled.isKnown id]
  exact ⟨.flag _, shuffled.change id keepsId keepsName, map_changeLast id change keepsName _⟩

theorem forNames (shuffle : Shuffle known left right) {names others : List String}
    (same : ∀ name ∈ known, name ∈ names ↔ name ∈ others) (discipline : Discipline) :
    Answer.Alike (left.perform (.forNames names discipline)).1
        (right.perform (.forNames others discipline)).1 ∧
      Shuffle known (left.perform (.forNames names discipline)).2
        (right.perform (.forNames others discipline)).2 := by
  apply shuffle.asked
  intro first second shuffled inKnown
  have agree : ∀ row ∈ first.rows, row.name ∈ names ↔ row.name ∈ others :=
    fun row member => same row.name (inKnown _ (List.mem_map_of_mem member))
  obtain ⟨answer, left⟩ := shuffled.forNames agree discipline
  rw [answer]
  refine ⟨.status _, left, ?_⟩
  cases discipline <;> rfl

/-! ## One request -/

theorem perform (shuffle : Shuffle known left right) {request other : Request}
    (alike : request.Alike known other) :
    Answer.Alike (left.perform request).1 (right.perform other).1 ∧
      Shuffle known (left.perform request).2 (right.perform other).2 := by
  cases alike with
  | forNames discipline same => exact shuffle.forNames same discipline
  | same noPass =>
      obtain ⟨_, _, after, afterToo, loads, loadsToo, _, _, shuffleAfter⟩ := shuffle.load
      cases request with
      | load =>
          simp only [Ledger.perform, answered, loads, loadsToo]
          exact ⟨.done, shuffleAfter⟩
      | loadAside =>
          simp only [Ledger.perform, answeredAside, loadAside, loads, loadsToo]
          exact ⟨.done, shuffleAfter⟩
      | isLoaded =>
          simp only [Ledger.perform, shuffle.begun]
          exact ⟨.flag _, shuffle⟩
      | all =>
          apply shuffle.read
          intro first second shuffled
          rw [shuffled.all]
          exact .composite _
      | windowStatus window =>
          apply shuffle.read
          intro first second shuffled
          rw [shuffled.windowStatus]
          exact .status _
      | forNames names discipline => exact shuffle.forNames (fun _ _ => Iff.rfl) discipline
      | createdIds position =>
          exact shuffle.read fun shuffled => .ids (shuffled.createdIds position)
      | unprocessed => exact shuffle.read fun shuffled => .rows shuffled.unprocessed
      | positions =>
          apply shuffle.read
          intro first second shuffled
          rw [shuffled.positions]
          exact .positions _
      | row id =>
          apply shuffle.read
          intro first second shuffled
          rw [shuffled.row?]
          exact .row _
      | setStatus id update =>
          exact shuffle.write id (Row.updated update) (fun _ => rfl) (fun _ => rfl) fun _ => rfl
      | setProcessed id =>
          exact shuffle.write id Row.marked (fun _ => rfl) (fun _ => rfl) fun _ => rfl
      | withTable table =>
          refine ⟨.done, shuffle.withResolver ?_⟩
          rw [shuffle.resolver]
      | withToggles toggles =>
          refine ⟨.done, shuffle.withResolver ?_⟩
          rw [shuffle.resolver]
      | pass pass stamps fuel hooks outbox => cases noPass

/-! ## Runs -/

theorem performAll (shuffle : Shuffle known left right) {pairs : List (Request × Request)}
    (alike : ∀ pair ∈ pairs, pair.1.Alike known pair.2) :
    let first := (left.performAll (pairs.map Prod.fst)).1
    let second := (right.performAll (pairs.map Prod.snd)).1
    first.length = pairs.length ∧ second.length = pairs.length ∧
      ∀ answers ∈ first.zip second, answers.1.Alike answers.2 := by
  induction pairs generalizing left right with
  | nil => exact ⟨rfl, rfl, fun _ member => absurd member List.not_mem_nil⟩
  | cons pair rest ih =>
      obtain ⟨alikeFirst, alikeRest⟩ := List.forall_mem_cons.mp alike
      obtain ⟨answered, left⟩ := shuffle.perform alikeFirst
      obtain ⟨count, countToo, answers⟩ := ih left alikeRest
      refine ⟨congrArg (· + 1) count, congrArg (· + 1) countToo, ?_⟩
      exact List.forall_mem_cons.mpr ⟨answered, answers⟩

end Shuffle

end Ledger

namespace Board

/-- Two boards whose sources give the same rows of distinct ids and names, in whatever order,
are asked alike, step by step.  They answer alike: composites, positions and rows are equal,
and ids of created jobs are the same up to their order. -/
theorem performAll_rearranged (pipeline other : PipelineId) (toggles : Toggles)
    {source rearranged : Source} {rows others : List Row}
    (fetched : source.fetch 0 pipeline = .rows rows)
    (fetchedToo : rearranged.fetch 0 other = .rows others) (perm : rows.Perm others)
    (ids : (rows.map Row.id).Nodup) (names : (rows.map Row.name).Nodup)
    {pairs : List (Request × Request)}
    (alike : ∀ pair ∈ pairs, pair.1.Alike (rows.map Row.name) pair.2) :
    let first := ((ofSource pipeline source toggles).performAll (pairs.map Prod.fst)).1
    let second := ((ofSource other rearranged toggles).performAll (pairs.map Prod.snd)).1
    first.length = pairs.length ∧ second.length = pairs.length ∧
      ∀ answers ∈ first.zip second, answers.1.Alike answers.2 := by
  intro first second
  have sorted := sortByPosition_perm rows
  have shuffle : (ofSource pipeline source toggles).ledger.Shuffle (rows.map Row.name)
      (ofSource other rearranged toggles).ledger := by
    refine ⟨rfl, rfl, _, _, .fetch rfl fetched, .fetch rfl fetchedToo, ⟨?_, ?_, ?_, rfl⟩, ?_⟩
    · exact sorted.trans (perm.trans (sortByPosition_perm others).symm)
    · exact (sorted.map Row.id).nodup_iff.mpr ids
    · exact (sorted.map Row.name).nodup_iff.mpr names
    · exact fun name member => (sorted.map Row.name).mem_iff.mp member
  have firstEq : first = _ :=
    (performAll_agrees (sound_ofSource pipeline source toggles) (pairs.map Prod.fst)).answer
  have secondEq : second = _ :=
    (performAll_agrees (sound_ofSource other rearranged toggles) (pairs.map Prod.snd)).answer
  rw [firstEq, secondEq]
  exact shuffle.performAll alike

/-- The needs of a job are asked for in another order, one of them twice and with an unknown
one among them, while a job is changed and a switch is flipped. -/
theorem performAll_rearranged_repeated_names :
    let rows : List Row :=
      [.fresh ⟨1⟩ "build" .success 0, .fresh ⟨2⟩ "lint" .created 0, .fresh ⟨3⟩ "test" .created 1]
    let source := Source.memory [(⟨7⟩, rows)]
    let rearranged := Source.memory [(⟨8⟩, rows.reverse)]
    let pairs : List (Request × Request) :=
      [(.forNames ["build", "test"] .dag, .forNames ["test", "ghost", "build", "test"] .dag),
        (.setStatus ⟨2⟩ ⟨.failed, ⟨1⟩⟩, .setStatus ⟨2⟩ ⟨.failed, ⟨1⟩⟩),
        (.withToggles (.fixed ⟨true, true⟩), .withToggles (.fixed ⟨true, true⟩)),
        (.forNames ["test", "lint"] .stage, .forNames ["lint", "test"] .stage),
        (.createdIds 1, .createdIds 1)]
    let first := ((ofSource ⟨7⟩ source (.fixed ⟨false, true⟩)).performAll (pairs.map Prod.fst)).1
    let second :=
      ((ofSource ⟨8⟩ rearranged (.fixed ⟨false, true⟩)).performAll (pairs.map Prod.snd)).1
    rows.Perm rows.reverse ∧ (rows.map Row.id).Nodup ∧ (rows.map Row.name).Nodup ∧
      (∀ pair ∈ pairs, pair.1.Alike ((sortByPosition rows).map Row.name) pair.2) ∧
      first.length = 5 ∧ second.length = 5 ∧
      ∀ answers ∈ first.zip second, answers.1.Alike answers.2 := by
  intro rows source rearranged pairs first second
  have alike : ∀ pair ∈ pairs,
      pair.1.Alike ((sortByPosition rows).map Row.name) pair.2 := by
    simp only [pairs, List.forall_mem_cons]
    refine ⟨.forNames _ ?_, .same rfl, .same rfl, .forNames _ ?_, .same rfl, ?_⟩
    · decide
    · decide
    · exact fun _ member => absurd member List.not_mem_nil
  exact ⟨by decide, by decide, by decide, alike,
    performAll_rearranged ⟨7⟩ ⟨8⟩ (.fixed ⟨false, true⟩) rfl rfl (by decide) (by decide)
      (by decide) alike⟩

end Board

end Rollup
