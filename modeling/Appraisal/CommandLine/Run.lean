import Appraisal.CommandLine.Arguments
import Appraisal.CommandLine.Files

/-!
# Running a command

What the program prints and how it exits. Everything it needs of its surroundings is handed to it.
-/

namespace Appraisal.CommandLine

/-- The surroundings of the program, whose effects happen in `m`. -/
structure Surroundings (α : Type) (m : Type → Type) where
  environment : String → Option String
  /-- Opens the database file of a location, and creates it where there is none. -/
  openDatabase : Location → m (Except Failure (Database α))
  keepDatabase : Location → Database α → m Unit
  fileText : String → m (Except Failure String)
  today : Date
  now : Moment
  /-- How the present moment is shown on a recommendation. -/
  analyzedAt : String
  /-- How the text of the moment of a request for a refresh is shown. -/
  requestedAt : String → String

structure Outcome where
  exitCode : UInt8
  output : String := ""
  errors : String := ""
  deriving DecidableEq

/-- The text for those who ask for help or need it. -/
def usage : String :=
  "Collectible set scoring and buy-price recommendations\n\n" ++
  "Usage: appraisal <COMMAND>\n\n" ++
  "Commands:\n" ++
  "  analyze <PRODUCT_ID> [--strategy <STRATEGY>]      Recommend one product\n" ++
  "  batch <PRODUCT_IDS>... [--strategy <STRATEGY>]    Recommend several products\n" ++
  "  strategies                                        List strategies and their weights\n" ++
  "  analyzers                                         List dimension analyzers\n" ++
  "  refresh-queue                                     List price guides to refresh\n" ++
  "  import <FILE>                                     Load a JSON seed bundle\n" ++
  "  help                                              Print this text"

variable {α : Type} [Arithmetic α] [NumberText α]

omit [NumberText α] in
/-- The strategies with their weights, as they are listed. -/
def strategiesJson (parts : List PartInfo) (weights : Keyed (Weights α)) : Json α :=
  .list (fun part => .object [
    ("description", .string part.description),
    ("name", .string part.name),
    ("weights", .ofOption Weights.toJson (weights.get? part.name))]) parts

def replyJson (analyzedAt : String) : Reply α → Json α
  | .recommendation r => r.toJson (some analyzedAt)
  | .batch b => b.toJson (some analyzedAt)
  | .evidence e => e.toJson
  | .evidenceOf es => es.toJson Evidence.toJson
  | .products ps => .list Product.toJson ps
  | .strategies parts weights => strategiesJson parts weights
  | .analyzers parts => .list PartInfo.toJson parts
  | .day d => d.toJson

/-- What is printed of an answer, unless its computation was aborted. -/
def answerJson (analyzedAt : String) (requestedAt : String → String) : Answer α → Checked (Json α)
  | .loaded counts => return counts.toJson
  | .pending requests => return .list (RefreshRequest.toJson (some requestedAt)) requests
  | .reply r => return replyJson analyzedAt r
  | .aborted => .aborted

variable {m : Type → Type} [Monad m]

omit [NumberText α] in
/-- The request that a command stands for. Only an import reads a file. -/
def request (w : Surroundings α m) : Command → m (Except Failure (Request α))
  | .analyze id strategy => return .ok (.ask (.analyze id strategy))
  | .batch ids strategy => return .ok (.ask (.analyzeAll ids strategy))
  | .strategies => return .ok (.ask .strategies)
  | .analyzers => return .ok (.ask .analyzers)
  | .refreshQueue => return .ok .pending
  | .importFile path => do
    return (← w.fileText path).bind fun text => (Bundle.read text).map .load

/-- The outcome of a computation that is aborted. -/
def Outcome.aborted : Outcome := { exitCode := 101 }

/-- The outcome that shows an answer. -/
def Outcome.ofAnswer (w : Surroundings α m) : Except Failure (Answer α) → Outcome
  | .ok answer =>
    match answerJson w.analyzedAt w.requestedAt answer with
    | .value json => { exitCode := 0, output := json.pretty }
    | .aborted => .aborted
  | .error e => { exitCode := 1, errors := s!"Error: {e.message}" }

/-- Opens the database of a location. One without a file begins empty. -/
def openAt (w : Surroundings α m) (loc : Location) : m (Except Failure (Database α)) :=
  if loc.path.isSome then w.openDatabase loc else return loc.openFound false .blank

/-- Checks the settings and opens the database. -/
def prepare (w : Surroundings α m) (s : Settings) :
    m (Except Failure (Location × Database α)) := do
  match s.validate α *> Location.parse s.database with
  | .error e => return .error e
  | .ok loc => return (← openAt w loc).map (loc, ·)

/-- Keeps a database, if it has a file that may change. -/
def keepAt (w : Surroundings α m) (loc : Location) (db : Database α) : m Unit := do
  if loc.path.isSome && !loc.isReadOnly then w.keepDatabase loc db

/-- Carries out a command on an open database, and keeps what becomes of it. -/
def carryOut (w : Surroundings α m) (s : Settings) (loc : Location) (db : Database α)
    (command : Command) : m Outcome := do
  match ← request w command with
  | .error e => return .ofAnswer w (.error e)
  | .ok request =>
    let (next, answer) := Service.step s w.today w.now db request
    if loc.isReadOnly && request.isLoad then
      return .ofAnswer w (.error (.database Location.notWritable))
    keepAt w loc next
    return .ofAnswer w answer

def run (w : Surroundings α m) (args : List String) : m Outcome := do
  match parse args with
  | .error .misuse => return { exitCode := 2, errors := usage }
  | .error .help => return { exitCode := 0, errors := usage }
  | .ok command =>
    let s := Settings.ofEnvironment w.environment
    match ← prepare w s with
    | .error e => return { exitCode := 1, errors := s!"Error initializing BrickScout: {e.message}" }
    | .ok (loc, db) => carryOut w s loc db command

end Appraisal.CommandLine
