/-
# Processors and their calls

A processor is a separate plaintext boundary: its configuration says where it is and what is
dispatched to it.
-/
import Akson.Lib.Fallible
import Akson.Env

namespace Akson

/-- A scheme, a host and a port. -/
structure Origin where
  scheme : String
  host : String
  port : ℕ
deriving DecidableEq

def Origin.json (o : Origin) : Json :=
  .obj [("host", .str o.host), ("port", .num o.port), ("scheme", .str o.scheme)]

inductive ProcessorLocation where
  | localHost
  | remote
deriving DecidableEq

/-- What the operator was told of a processor. -/
structure ProcessorDisclosure where
  location : ProcessorLocation
  operator : Option String
  region : Option String
  retention : Option String
  trainsOnData : Option Bool
  subprocessors : List String
deriving DecidableEq

/-- How a credential is presented. -/
inductive AuthScheme where
  | bearer
  | header (name : String)
  | none
deriving DecidableEq

/-- A processor as it was configured. -/
structure ProcessorConfig where
  processorId : String
  provider : String
  origin : Origin
  disclosure : ProcessorDisclosure
  path : String
  auth : AuthScheme
  headers : List (String × String)
  config : Json
  tlsCertificateSha256 : Option String

namespace ProcessorConfig

def isLocal (c : ProcessorConfig) : Bool := c.disclosure.location = .localHost

def configDigest (env : Env) (c : ProcessorConfig) : String :=
  hex (env.sha256 (Json.canonicalBytes env.fmtNum
    (.obj [("config", c.config),
      ("headers", .arr (c.headers.map (fun h => .arr [.str h.1, .str h.2]))),
      ("origin", c.origin.json), ("path", .str c.path), ("provider", .str c.provider)])))

end ProcessorConfig

/-! ## Calls -/

/-- The order a call is made under. -/
structure CallBinding where
  workOrderId : String
  workOrderDigest : String
  taskId : String

/-- The limits of the order's calls. -/
structure CallBudget where
  maxCostMicrousd : ℕ
  deadline : String
  maxResponseBytes : ℕ
  maxOperations : ℕ

/-- A call as it is recorded before it is sent. -/
structure ProcessorCall where
  processorId : String
  provider : String
  origin : Origin
  configDigest : String
  requestDigest : String
  workOrderId : String
  workOrderDigest : String
  taskId : String
  idempotencyKey : String
  maxCostMicrousd : ℕ
  deadline : String
  maxResponseBytes : ℕ

def deriveIdempotencyKey (env : Env) (workOrderId configDigest requestDigest : String) : String :=
  hex (env.sha256 (Json.canonicalBytes env.fmtNum
    (.obj [("config_digest", .str configDigest), ("request_digest", .str requestDigest),
      ("work_order_id", .str workOrderId)])))

def ProcessorCall.prepare (env : Env) (config : ProcessorConfig) (request : Bytes)
    (binding : CallBinding) (budget : CallBudget) : ProcessorCall :=
  let configDigest := config.configDigest env
  let requestDigest := hex (env.sha256 request)
  { processorId := config.processorId
    provider := config.provider
    origin := config.origin
    configDigest := configDigest
    requestDigest := requestDigest
    workOrderId := binding.workOrderId
    workOrderDigest := binding.workOrderDigest
    taskId := binding.taskId
    idempotencyKey := deriveIdempotencyKey env binding.workOrderId configDigest requestDigest
    maxCostMicrousd := budget.maxCostMicrousd
    deadline := budget.deadline
    maxResponseBytes := budget.maxResponseBytes }

/-! ## The life of a call -/

/-- The states of a recorded call. -/
inductive SubAttemptState where
  | prepared
  | dispatching
  | completed
  | failed
  | ambiguous
  | cancelled
deriving DecidableEq

namespace SubAttemptState

def asStr : SubAttemptState → String
  | .prepared => "prepared"
  | .dispatching => "dispatching"
  | .completed => "completed"
  | .failed => "failed"
  | .ambiguous => "ambiguous"
  | .cancelled => "cancelled"

def isTerminal : SubAttemptState → Bool
  | .completed | .failed | .ambiguous | .cancelled => true
  | .prepared | .dispatching => false

end SubAttemptState

/-- What can happen to a recorded call. -/
inductive SubAttemptEvent where
  | dispatch
  | complete
  | fail
  | markAmbiguous
  | cancel
  | recoverAfterCrash
deriving DecidableEq

inductive SubTransitionError where
  | alreadyTerminal (state : SubAttemptState)
  | invalid (state : SubAttemptState) (event : SubAttemptEvent)
deriving DecidableEq

def SubAttemptState.next (state : SubAttemptState) (event : SubAttemptEvent) :
    Except SubTransitionError SubAttemptState :=
  if state.isTerminal then .error (.alreadyTerminal state)
  else
    match state, event with
    | .prepared, .dispatch => .ok .dispatching
    | .dispatching, .complete => .ok .completed
    | .dispatching, .fail => .ok .failed
    | .dispatching, .markAmbiguous => .ok .ambiguous
    | .prepared, .cancel => .ok .cancelled
    -- bytes may have left, and a cancellation cannot undo a disclosure
    | .dispatching, .cancel => .ok .ambiguous
    | .dispatching, .recoverAfterCrash => .ok .ambiguous
    | state, event => .error (.invalid state event)

end Akson
