import NebulaId.Database.Updates

/-!
# The audit log (`server/audit/logger.rs`)

A logger keeps the latest events, up to a number of its own; when it is full, the oldest ones
make room. What it has been given is counted, and sent to the writer of the file if there is one.

* `log_ne`: an event that is logged leaves a trace in the counter.
* `log_inj`: two events that leave the same logger behind are one event.
-/

namespace NebulaId

/-- The third value of the result is `Partial`. -/
inductive AuditResult where
  | success
  | failure
  | partialSuccess
  | unknown
  deriving DecidableEq

inductive AuditEventType where
  | idGeneration
  | batchGeneration
  | authentication
  | configChange
  | degradationEvent
  | rateLimitExceeded
  | healthCheck
  | metricsAccess
  | workspaceCreated
  | workspaceUpdated
  | workspaceDeleted
  | groupCreated
  | groupUpdated
  | groupDeleted
  | bizTagCreated
  | bizTagUpdated
  | bizTagDeleted
  | apiKeyCreated
  | apiKeyUpdated
  | apiKeyDeleted
  | apiKeyRegenerated
  deriving DecidableEq

structure AuditEvent where
  id : UInt64
  timestamp : ℤ
  eventType : AuditEventType
  workspaceId : Option String
  userId : Option String
  action : String
  resource : String
  result : AuditResult
  details : Option SeaOrmRepository.Json
  clientIp : Option String
  userAgent : Option String
  durationMs : UInt64
  errorMessage : Option String

/-- The id and the time that a new event takes. -/
structure AuditStamp where
  id : UInt64
  timestamp : ℤ

namespace AuditEvent

def new (stamp : AuditStamp) (eventType : AuditEventType) (workspaceId : Option String)
    (action resource : String) (result : AuditResult) : AuditEvent where
  id := stamp.id
  timestamp := stamp.timestamp
  eventType := eventType
  workspaceId := workspaceId
  userId := none
  action := action
  resource := resource
  result := result
  details := none
  clientIp := none
  userAgent := none
  durationMs := 0
  errorMessage := none

def withDetails (event : AuditEvent) (details : SeaOrmRepository.Json) : AuditEvent :=
  { event with details := some details }

end AuditEvent

structure AuditLogger where
  events : List AuditEvent
  maxEvents : ℕ
  totalLogged : UInt64
  totalErrors : UInt64
  /-- What the writer of the file has been sent. -/
  file : Option (List AuditEvent)

namespace AuditLogger

/-- How many events make room for a new one. -/
def droppedCount (l : AuditLogger) : ℕ :=
  if l.maxEvents ≤ l.events.length then l.events.length - l.maxEvents + 1 else 0

/-- Without a file an event that makes room is lost, and counts as an error. -/
def log (l : AuditLogger) (event : AuditEvent) : AuditLogger where
  events := l.events.drop l.droppedCount ++ [event]
  maxEvents := l.maxEvents
  totalLogged := l.totalLogged + 1
  totalErrors :=
    if l.file.isNone then l.totalErrors + .ofNat (min l.droppedCount l.events.length)
    else l.totalErrors
  file := l.file.map (· ++ [event])

/-- An asynchronous call, which does nothing before it is awaited. -/
abbrev Call := AuditLogger → AuditLogger

def Call.await (call : Call) (l : AuditLogger) : AuditLogger := call l

/-- `let _ = call` -/
def Call.discard (_ : Call) (l : AuditLogger) : AuditLogger := l

def logConfigChange (stamp : AuditStamp) (workspaceId : Option String) (action configType : String)
    (details : SeaOrmRepository.Json) : Call := fun l =>
  l.log ((AuditEvent.new stamp .configChange workspaceId action ("config:" ++ configType)
    .success).withDetails details)

variable {l : AuditLogger} {event event' : AuditEvent}

theorem log_ne : l.log event ≠ l := by
  intro heq
  have htotal : l.totalLogged + 1 = l.totalLogged := congrArg AuditLogger.totalLogged heq
  simp at htotal

theorem log_inj : l.log event = l.log event' ↔ event = event' := by
  constructor
  · intro heq
    have hevents := List.append_cancel_left (congrArg AuditLogger.events heq)
    exact List.singleton_inj.mp hevents
  · exact congrArg l.log

end AuditLogger

end NebulaId
