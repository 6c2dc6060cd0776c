import Rollup.Proofs.Preceding
import Rollup.Proofs.Requests

/-!
# Tokens and marks do not matter

Two rosters resemble each other when they are the same without tokens and marks.  All that
composites, positions and created jobs are told from is then the same in both, and an update
of a job leaves them so, whatever tokens they have.  A mark does not even have to be made in
both.  So a run of requests that ask for neither tokens nor marks goes as it would without
the marks that are made on the way.
-/

namespace Rollup

@[simp] theorem Row.plain_plain (row : Row) : row.plain.plain = row.plain := rfl

theorem map_plain_plain (rows : List Row) :
    (rows.map Row.plain).map Row.plain = rows.map Row.plain := by
  rw [List.map_map]
  rfl

/-- A change that does not see tokens and marks leaves the same rows, without these. -/
theorem map_plain_changeLast {change : Row → Row}
    (blind : ∀ row, (change row.plain).plain = (change row).plain) (id : JobId)
    (rows : List Row) :
    (changeLast id change (rows.map Row.plain)).map Row.plain =
      (changeLast id change rows).map Row.plain := by
  induction rows with
  | nil => rfl
  | cons row rest ih =>
      have ids : (rest.map Row.plain).map Row.id = rest.map Row.id := by
        rw [List.map_map]
        rfl
      have same : row.plain.id = row.id := rfl
      rw [List.map_cons, changeLast, changeLast, ids, same]
      split
      · rw [List.map_cons, List.map_cons, ih, Row.plain_plain]
      · split
        · rw [List.map_cons, List.map_cons, blind, map_plain_plain]
        · rw [List.map_cons, List.map_cons, map_plain_plain, Row.plain_plain]

/-! ## Rosters -/

namespace Roster

theorem plain_plain (roster : Roster) : roster.plain.plain = roster.plain := by
  rw [plain, plain, map_plain_plain]

/-- A question that does not see tokens and marks: without them it has the same answer, and
leaves the same roster without them. -/
structure Blind {α : Type} (scan : Roster → α × Roster) : Prop where
  answer : ∀ roster, (scan roster.plain).1 = (scan roster).1
  roster : ∀ roster, (scan roster.plain).2.plain = (scan roster).2.plain

namespace Blind

/-- Rosters that resemble each other answer alike, and still resemble each other. -/
theorem alike {α : Type} {scan : Roster → α × Roster} (blind : Blind scan) {left right : Roster}
    (same : left.plain = right.plain) :
    (scan left).1 = (scan right).1 ∧ (scan left).2.plain = (scan right).2.plain := by
  rw [← blind.answer left, ← blind.roster left, same]
  exact ⟨blind.answer right, blind.roster right⟩

/-- A question that changes nothing. -/
theorem read {α : Type} {ask : Roster → α} (blind : ∀ roster, ask roster.plain = ask roster) :
    Blind fun roster => (ask roster, roster) :=
  ⟨blind, plain_plain⟩

theorem windowStatus (window : Window) :
    Blind fun roster => (roster.windowStatus window, roster) :=
  .read fun roster => roster.windowStatus_plain window

theorem all : Blind fun roster => (roster.all, roster) := by
  apply Blind.read
  intro roster
  have entries : (roster.rows.map Row.plain).map Row.entry = roster.rows.map Row.entry := by
    rw [List.map_map]
    rfl
  rw [Roster.all, plain, entries]
  rfl

theorem positions : Blind fun roster => (roster.positions, roster) := by
  apply Blind.read
  intro roster
  rw [Roster.positions, plain, List.map_map]
  rfl

theorem createdIds (position : Position) :
    Blind fun roster => (roster.createdIds position, roster) := by
  apply Blind.read
  intro roster
  simp only [Roster.createdIds, Roster.window, plain, List.filter_map, List.map_map]
  rfl

theorem forNames (names : List String) (discipline : Discipline) :
    Blind fun roster => roster.forNames names discipline := by
  cases discipline with
  | stage =>
      refine ⟨?_, plain_plain⟩
      intro roster
      have entries : ((roster.namedRows names).map Row.plain).map Row.entry =
          (roster.namedRows names).map Row.entry := by
        rw [List.map_map]
        rfl
      simp only [Roster.forNames, namedRows_plain, entries]
      rfl
  | dag =>
      constructor
      · intro roster
        simp only [Roster.forNames, dependencyEntries_plain]
        rfl
      · exact fun roster => plain_plain roster.consulted.consulted

/-- An update writes the same status and the same token into both. -/
theorem setStatus (id : JobId) (update : Update) :
    Blind fun roster => roster.setStatus id update where
  answer roster := by
    simp only [Roster.setStatus, plain, List.map_map]
    rfl
  roster roster := by
    have changed := @map_plain_changeLast (Row.updated update) (fun _ => rfl) id roster.rows
    simp only [Roster.setStatus, change, plain, changed]

end Blind

/-- A mark is not seen. -/
theorem plain_setProcessed (roster : Roster) (id : JobId) :
    (roster.setProcessed id).2.plain = roster.plain := by
  simp only [setProcessed, change, plain]
  rw [map_changeLast id Row.marked fun _ => rfl]

end Roster

/-! ## Requests -/

namespace Request

/-- Whether a request asks for tokens or marks. -/
def seesMarks : Request → Bool
  | .unprocessed => true
  | .row _ => true
  | .pass .. => true
  | _ => false

/-- Whether a request is to mark a job as processed. -/
def isMark : Request → Bool
  | .setProcessed _ => true
  | _ => false

end Request

namespace Ledger

/-- Two ledgers with rows, of whatever pipelines, that are the same without tokens and
marks. -/
def Resembles (left right : Ledger) : Prop :=
  ∃ rows others, left.state = some (.ok rows) ∧ right.state = some (.ok others) ∧
    (⟨rows, left.resolver⟩ : Roster).plain = (⟨others, right.resolver⟩ : Roster).plain

namespace Resembles

variable {left right : Ledger}

/-- They resolve alike. -/
theorem resolver (resembles : Resembles left right) : left.resolver = right.resolver := by
  obtain ⟨rows, others, _, _, same⟩ := resembles
  exact congrArg Roster.resolver same

/-- Another way to resolve, the same for both, leaves them alike. -/
theorem withResolver (resembles : Resembles left right) {first second : Resolver}
    (agree : first = second) :
    Resembles { left with resolver := first } { right with resolver := second } := by
  obtain ⟨rows, others, state, stateToo, same⟩ := resembles
  refine ⟨rows, others, state, stateToo, ?_⟩
  rw [Roster.plain, Roster.plain, agree]
  exact congrArg (fun roster : Roster => { roster with resolver := second }) same

theorem asked {α : Type} {wrap : α → Answer} {scan : Roster → α × Roster}
    (resembles : Resembles left right) (blind : Roster.Blind scan) :
    (answered wrap (left.query scan)).1 = (answered wrap (right.query scan)).1 ∧
      Resembles (answered wrap (left.query scan)).2 (answered wrap (right.query scan)).2 := by
  obtain ⟨rows, others, state, stateToo, same⟩ := resembles
  obtain ⟨answer, after⟩ := blind.alike same
  rw [answered, answered, query_of_state state, query_of_state stateToo]
  exact ⟨congrArg (fun value => Answer.ofResult wrap (.ok value)) answer, _, _, rfl, rfl, after⟩

/-- A mark in one of them leaves them alike. -/
theorem mark (resembles : Resembles left right) (id : JobId) :
    Resembles (left.perform (.setProcessed id)).2 right := by
  obtain ⟨rows, others, state, stateToo, same⟩ := resembles
  simp only [Ledger.perform, answered, query_of_state state]
  exact ⟨_, others, rfl, stateToo, (Roster.plain_setProcessed _ id).trans same⟩

/-- What asks for neither tokens nor marks has the same answer, and leaves them alike. -/
theorem perform (resembles : Resembles left right) {request : Request}
    (blind : request.seesMarks = false) (noMark : request.isMark = false) :
    (left.perform request).1 = (right.perform request).1 ∧
      Resembles (left.perform request).2 (right.perform request).2 := by
  cases request with
  | load =>
      obtain ⟨rows, others, state, stateToo, _⟩ := id resembles
      simp only [Ledger.perform, answered, Ledger.load, state, stateToo]
      exact ⟨rfl, resembles⟩
  | loadAside =>
      obtain ⟨rows, others, state, stateToo, _⟩ := id resembles
      simp only [Ledger.perform, answeredAside, Ledger.loadAside, Ledger.load, state, stateToo]
      exact ⟨rfl, resembles⟩
  | isLoaded =>
      obtain ⟨rows, others, state, stateToo, _⟩ := id resembles
      simp only [Ledger.perform, state, stateToo]
      exact ⟨rfl, resembles⟩
  | all => exact resembles.asked .all
  | windowStatus window => exact resembles.asked (.windowStatus window)
  | forNames names discipline => exact resembles.asked (.forNames names discipline)
  | createdIds position => exact resembles.asked (.createdIds position)
  | positions => exact resembles.asked .positions
  | setStatus id update => exact resembles.asked (.setStatus id update)
  | withTable table =>
      refine ⟨rfl, resembles.withResolver ?_⟩
      rw [resembles.resolver]
  | withToggles toggles =>
      refine ⟨rfl, resembles.withResolver ?_⟩
      rw [resembles.resolver]
  | setProcessed id => cases noMark
  | unprocessed => cases blind
  | row id => cases blind
  | pass pass stamps fuel hooks outbox => cases blind

/-- A run of requests with marks among them goes as it goes without the marks. -/
theorem performAll (resembles : Resembles left right) {requests : List Request}
    (blind : ∀ request ∈ requests, request.seesMarks = false) :
    let others := requests.filter fun request => !request.isMark
    (requests.zip (left.performAll requests).1).filter (fun asked => !asked.1.isMark) =
        others.zip (right.performAll others).1 ∧
      Resembles (left.performAll requests).2 (right.performAll others).2 := by
  induction requests generalizing left right with
  | nil => exact ⟨rfl, resembles⟩
  | cons request rest ih =>
      obtain ⟨here, there⟩ := List.forall_mem_cons.mp blind
      cases isMark : request.isMark with
      | true =>
          obtain ⟨id, rfl⟩ : ∃ id, request = .setProcessed id := by
            cases request with
            | setProcessed id => exact ⟨id, rfl⟩
            | _ => cases isMark
          exact ih (resembles.mark id) there
      | false =>
          obtain ⟨answer, after⟩ := resembles.perform here isMark
          obtain ⟨answers, final⟩ := ih after there
          have kept : (request :: rest).filter (fun request => !request.isMark) =
              request :: rest.filter (fun request => !request.isMark) :=
            List.filter_cons_of_pos (by rw [isMark]; rfl)
          rw [kept]
          refine ⟨?_, final⟩
          refine (List.filter_cons_of_pos (by rw [isMark]; rfl)).trans ?_
          exact congr (congrArg List.cons (congrArg (request, ·) answer)) answers

end Resembles

end Ledger

end Rollup
