import Appraisal.Settings
import Appraisal.Store.Database

/-!
# Service

The requests that a session answers, over a database that remembers what was loaded and which price
guides have to be refreshed.
-/

namespace Appraisal

inductive Query where
  | analyze (id : String) (strategy : Option String)
  | analyzeAll (ids : List String) (strategy : Option String)
  | gather (id : String)
  | gatherAll (ids : List String)
  | fetch (ids : List String)
  | strategies
  | analyzers
  | referenceDay
  deriving DecidableEq

inductive Reply (α : Type) where
  | recommendation (r : Recommendation α)
  | batch (b : Batch α)
  | evidence (e : Evidence α)
  | evidenceOf (es : Keyed (Evidence α))
  | products (ps : List (Product α))
  | strategies (parts : List PartInfo) (weights : Keyed (Weights α))
  | analyzers (parts : List PartInfo)
  | day (d : Date)

inductive Request (α : Type) where
  | load (bundle : Bundle α)
  | pending
  | ask (query : Query)

def Request.isLoad {α : Type} : Request α → Bool
  | .load bundle => !bundle.records.isEmpty
  | _ => false

/-- A request with the moment and the day on which it is made. -/
structure Arrival (α : Type) where
  now : Moment
  today : Date
  request : Request α

inductive Answer (α : Type) where
  | loaded (counts : BundleCounts)
  | pending (requests : List RefreshRequest)
  | reply (r : Reply α)
  /-- The computation of the reply was aborted. -/
  | aborted

variable {α : Type} [Arithmetic α] [NumberText α]

def Engine.reply (engine : Engine α) : Query → Traced (Checked (Reply α))
  | .analyze id strategy => do return (← engine.analyze id strategy).map .recommendation
  | .analyzeAll ids strategy => do return (← engine.analyzeAll ids strategy).map .batch
  | .gather id => do return .value (.evidence (← engine.gatherer.gather id))
  | .gatherAll ids => do
    let products ← engine.gatherer.fetch ids
    return .value (.evidenceOf (← engine.gatherer.gatherAll products))
  | .fetch ids => do return .value (.products (← engine.gatherer.fetch ids))
  | .strategies => return .value (.strategies engine.strategies engine.weightsByStrategy)
  | .analyzers => return .value (.analyzers engine.analyzerParts)
  | .referenceDay => return .value (.day engine.gatherer.asOf)

def Answer.ofReply : Checked (Reply α) → Answer α
  | .value r => .reply r
  | .aborted => .aborted

namespace Service

/-- The engine over a database, which has the refresh queue with it. -/
def engine (s : Settings) (today : Date) (db : Database α) : Engine α :=
  .ofSettings s today db.sources true

/-- Answers one request at the moment `now`, and changes the database accordingly. -/
def step (s : Settings) (today : Date) (now : Moment) (db : Database α) :
    Request α → Database α × Except Failure (Answer α)
  | .load bundle => (db.load bundle, .ok (.loaded bundle.counts))
  | .pending => (db, db.queue.pending.map .pending)
  | .ask query =>
    let traced := (engine s today db).reply query
    (db.takeRefreshes now traced.calls, traced.result.map .ofReply)

/-- Answers requests one after the other, also after one whose answer was aborted. Gives the database
that is left, and the answers. -/
def run (s : Settings) (db : Database α) :
    List (Arrival α) → Database α × List (Except Failure (Answer α))
  | [] => (db, [])
  | arrival :: rest =>
    let (next, answer) := step s arrival.today arrival.now db arrival.request
    let (last, answers) := run s next rest
    (last, answer :: answers)

end Service
end Appraisal
