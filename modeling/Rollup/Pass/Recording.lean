import Rollup.Pass.Run

/-!
# Recording hooks

Hooks that keep an account of every call and answer by a simple policy. They
stand in for the outside of a pass where only the pass matters.
-/

namespace Rollup

namespace Recording

/-- What becomes of a job that is offered for release. -/
inductive Policy where
  /-- It is queued after a success, skipped after a failure, and waits otherwise. -/
  | onSuccess
  /-- It stays as it is. -/
  | hold
  /-- The call fails. -/
  | refuse
  deriving DecidableEq, Repr

/-- The account of the calls, and what the answers depend on. -/
structure Account where
  policy : Policy
  /-- The jobs that wait for named jobs; of equal ids the later counts. -/
  needs : List (JobId × List String)
  /-- The jobs whose rows are never marked. -/
  stale : List JobId
  /-- The last token that was given out. -/
  lastToken : UInt64
  /-- Each job offered for release, with the composite of what it waits for. -/
  releases : List (JobId × Status)
  stageStatuses : StageStatuses
  /-- The stored composites of the pipeline, in order. -/
  pipelineStatuses : List Composite
  /-- How many rows each batch offered. -/
  batchSizes : List Nat
  /-- The ids that were marked, in order. -/
  processed : List JobId
  deriving DecidableEq, Repr

namespace Account

def ofPolicy (policy : Policy) (needs : List (JobId × List String)) (stale : List JobId) :
    Account where
  policy := policy
  needs := needs
  stale := stale
  lastToken := 100
  releases := []
  stageStatuses := .empty
  pipelineStatuses := []
  batchSizes := []
  processed := []

/-- What a job waits for: the jobs it needs if any are noted, else its stage. -/
def scheduling (account : Account) (id : JobId) : Scheduling :=
  match account.needs.reverse.find? fun entry => entry.1 = id with
  | some (_, needs) => .dag needs
  | none => .stage

/-- Give out the next token with a status. -/
def update (account : Account) (status : Status) : Option Update × Account :=
  let token := account.lastToken + 1
  (some ⟨status, ⟨token⟩⟩, { account with lastToken := token })

/-- The status that a job gets by the on-success policy. -/
def statusAfter? : Status → Option Status
  | .success => some .pending
  | .failed | .canceled => some .skipped
  | _ => none

/-- Note an offered job and answer by the policy. -/
def release (account : Account) (id : JobId) (dependency : Status) :
    Except String (Option Update) × Account :=
  let account := { account with releases := account.releases ++ [(id, dependency)] }
  match account.policy with
  | .refuse => (.error ("cannot release job " ++ toString id), account)
  | .hold => (.ok none, account)
  | .onSuccess =>
      match statusAfter? dependency with
      | some status =>
          let (update, account) := account.update status
          (.ok update, account)
      | none => (.ok none, account)

def persistStage (account : Account) (position : Position) (status : Status) :
    Except String Unit × Account :=
  (.ok (), { account with stageStatuses := account.stageStatuses.insert position status })

def persistPipeline (account : Account) (composite : Composite) :
    Except String Unit × Account :=
  (.ok (), { account with pipelineStatuses := account.pipelineStatuses ++ [composite] })

/-- Mark all offered rows but the stale ones. -/
def markProcessed (account : Account) (batch : List Offer) :
    Except String (List JobId) × Account :=
  let confirmed := (batch.map Prod.fst).filter fun id => id ∉ account.stale
  (.ok confirmed,
    { account with
      batchSizes := account.batchSizes ++ [batch.length]
      processed := account.processed ++ confirmed })

end Account

def hooks : Hooks Account where
  scheduling := Account.scheduling
  release := Account.release
  persistStage := Account.persistStage
  persistPipeline := Account.persistPipeline
  markProcessed := Account.markProcessed

end Recording

end Rollup
