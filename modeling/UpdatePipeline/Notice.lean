import UpdatePipeline.Error
import UpdatePipeline.Time.Duration
set_option autoImplicit false

/-!
# Notices

What the pipeline reports while it runs.
-/

namespace UpdatePipeline

/-- How grave a notice is. -/
inductive Severity where
  | info
  | warning
  | error
  deriving DecidableEq, Repr, Inhabited

/-- The severity as it is shown. -/
def Severity.name : Severity → String
  | .info => "INFO"
  | .warning => "WARN"
  | .error => "ERROR"

/-- Something worth reporting. -/
inductive Notice where
  -- of the dispatcher
  | started (workers : Nat)
  | stopped
  | filterFailed (handler : HandlerId) (update : String) (message : String)
  | handlerFailed (handler : HandlerId) (update : String) (message : String)
  -- of invocations
  | waitingForFlood (seconds : UInt32)
  | waitingForNetwork (delay : Duration)
  -- of the recovery
  | nothingToRecover
  | recovered (messages updates : Nat)
  | tooManyPages (scope : Int64) (pages : Nat) (pts : Int32)
  | recoveryAborted (scope : Int64) (error : InvocationError)
  | differenceFailed (scope : Int64) (error : InvocationError)
  | differenceTooLong (scope : Int64) (pts : Int32)
  | sliceStalled (scope : Int64) (pts : Int32)
  | channelDifferenceTooLong (scope : Int64) (dialogPts : Int32)
  -- of pushes
  | notStored (scope : Int64) (pts : Int32) (error : IoError)
  | channelTooLong (channelId : Int64) (pts : Option Int32)
  | peersNotCompleted (channelId : Int64) (error : InvocationError)
  | pushTooLong
  -- of the watchdog
  | probeFailed (error : InvocationError)
  deriving DecidableEq, Repr, Inhabited

namespace Notice

/-- Whether the notice is the dispatcher's. -/
def isOfDispatcher : Notice → Bool
  | .started _ | .stopped | .filterFailed _ _ _ | .handlerFailed _ _ _ => true
  | _ => false

/-- How grave the notice is. -/
def severity : Notice → Severity
  | .started _ | .stopped | .waitingForFlood _ | .waitingForNetwork _ | .nothingToRecover
  | .recovered _ _ | .channelTooLong _ _ | .pushTooLong => .info
  | .filterFailed _ _ _ | .handlerFailed _ _ _ => .error
  | _ => .warning

/-- The wording. -/
def text : Notice → String
  | .started workers => s!"Dispatcher started ({workers} workers)"
  | .stopped => "Dispatcher stopped"
  | .filterFailed id update message =>
    s!"filter of handler {HandlerId.show id} failed on {update}: {message}"
  | .handlerFailed id update message => s!"handler {HandlerId.show id} failed on {update}: {message}"
  | .waitingForFlood seconds => s!"FLOOD_WAIT_{seconds} — sleeping before retry"
  | .waitingForNetwork delay => s!"I/O error — sleeping {delay.text} before retry"
  | .nothingToRecover => "No update states stored, nothing to recover"
  | .recovered messages updates => s!"Recovered {messages} messages and {updates} updates"
  | .tooManyPages scope pages pts =>
    s!"Scope {scope}: giving up after {pages} difference pages (pts {pts})"
  | .recoveryAborted scope e => s!"Scope {scope}: recovery aborted: {e.message}"
  | .differenceFailed scope e => s!"Scope {scope}: difference failed: {e.message}"
  | .differenceTooLong scope pts =>
    s!"Scope {scope}: difference too long (server pts {pts}), not resynced"
  | .sliceStalled scope pts => s!"Scope {scope}: difference slice did not advance pts {pts}"
  | .channelDifferenceTooLong scope dialogPts =>
    s!"Scope {scope}: channel difference too long (dialog pts {dialogPts}), not resynced"
  | .notStored scope pts e => s!"Scope {scope}: failed to store pts {pts}: {e.message}"
  | .channelTooLong channelId (some pts) =>
    s!"updateChannelTooLong for channel {channelId} (pts Some({pts}))"
  | .channelTooLong channelId none => s!"updateChannelTooLong for channel {channelId} (pts None)"
  | .peersNotCompleted channelId e => s!"Min peers of channel {channelId} not completed: {e.message}"
  | .pushTooLong => "updatesTooLong received"
  | .probeFailed e => s!"Watchdog getState failed: {e.message}"

/-- The whole line: severity, origin and wording. -/
def line (n : Notice) : String := n.severity.name ++ " [layer] " ++ n.text

end Notice

end UpdatePipeline
