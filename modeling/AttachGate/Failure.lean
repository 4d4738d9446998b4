import AttachGate.Base64
import AttachGate.Json.Fault

/-!
# Failures

Everything that can go wrong, each failure by its cause.  A failure belongs to
a kind, and kinds form families: whoever handles a family handles every kind
in it.  The wording of all failures is in `Failure.message`.
-/

namespace AttachGate

inductive Kind
  | controlPlane
  | conflict
  | appNotFound
  | appFailed
  | retryExhausted
  | toolMissing
  | notLoggedIn
  | toolTimeout
  | cancelled
  | superseded
  | session
  | openCancelled
  | openTimeout
  | overClosed
  | exec
  | execExit
  | protocol
  | shortBuffer
  | settings
  | serverStart
  | malformedDocument
  | malformedBase64
  | undecodableText
  | unencodableText
  | badValue
  | overflow
  | wrongType
  | missingKey
  | outOfRange
  | notARecord
  | runtime
  | system
  | fileNotFound
  | brokenPipe
  | connectionReset
  | buffer
  | stream
  | cluster
  | credentials
  | socket
  | socketTimeout
  | socketClosed
  | emptyScript
  | tooDeep
  deriving DecidableEq

namespace Kind

/-- The family that a kind belongs to directly. -/
def family? : Kind → Option Kind
  | .conflict | .appNotFound | .appFailed | .retryExhausted | .toolMissing | .notLoggedIn
  | .toolTimeout => some .controlPlane
  | .superseded => some .cancelled
  | .openCancelled | .openTimeout => some .session
  | .execExit => some .exec
  | .shortBuffer => some .buffer
  | .overClosed | .tooDeep => some .runtime
  | .malformedDocument | .malformedBase64 | .undecodableText | .unencodableText => some .badValue
  | .fileNotFound | .brokenPipe | .connectionReset => some .system
  | .socketTimeout | .socketClosed => some .socket
  | _ => none

/-- Whether a kind is the given one or belongs to its family. -/
def isIn (k family : Kind) : Bool := k = family || k.family? = some family

end Kind

/-- A failure by its cause. -/
inductive Failure
  /-- Told by a collaborator, in its own words. -/
  | reported (kind : Kind) (detail : Text)
  /-- Ended by a request to give up, seen before an attempt. -/
  | cancelledBeforeAttempt
  /-- Ended by a request to give up, seen between two attempts. -/
  | cancelledInBackoff
  /-- Ended by a request to give up, seen inside an attempt. -/
  | cancelled
  /-- A wait for the app ended before the app was Live. -/
  | stoppedWaiting (app : Text)
  /-- The allowance of attempts was spent without one being made. -/
  | noAttempts (steps : Int)
  /-- Every attempt failed, the last one so. -/
  | attemptsSpent (steps : Int) (last : Failure)
  /-- A flip gave way to a request for the other phase. -/
  | superseded (label phase : Text) (token : Nat) (cause : Failure)
  /-- The app vanished while it was waited for. -/
  | appDeleted (app : Text) (cause : Failure)
  /-- The app is Live but names no pod. -/
  | noPod (app : Text)
  /-- The client went away while its app was starting. -/
  | gaveUp (app : Text)
  /-- The app took too long. -/
  | notReady (app : Text) (timeout : Number)
  /-- There is no attached client to detach. -/
  | overClosed (app : Text)
  | toolMissing
  | toolTimeout (timeout : Option Number) (command : Text)
  | notLoggedIn
  /-- A tool command failed for a reason without a kind of its own. -/
  | toolFailed (complaint : Text)
  /-- A tool command printed something that is no document. -/
  | unexpectedOutput (fault : Json.Fault)
  /-- The exec could not be opened. -/
  | execRefused (namespaceName pod reason : Text)
  /-- The exec's socket broke. -/
  | execBroken (pod : Text) (cause : Failure)
  /-- The exec ended without an exit status that makes sense. -/
  | noExitStatus (pod : Text) (cause : Failure)
  /-- The remote command ended with a status other than zero. -/
  | exited (code : Int)
  /-- A client message held another number of chunks than one. -/
  | chunkCount (count : Nat)
  /-- A chunk is longer than the reader's buffer. -/
  | shortBuffer (length : Nat) (size : Int)
  | streamClosed
  /-- A numeric setting is no number. -/
  | badSetting (cause : Failure)
  | tooFewWorkers
  | emptyPool
  /-- The address cannot be listened on, for a reason. -/
  | cannotListen (address : Text) (cause : Failure)
  /-- Listening on the address gave no port. -/
  | noPort (address : Text)
  | unknownLevel (level : Text)
  | malformedDocument (fault : Json.Fault)
  | malformedBase64 (fault : Base64.Fault)
  | badNumeral (fault : Numeral.Fault)
  /-- NaN has no integer part. -/
  | notANumber
  /-- Infinity has no integer part. -/
  | infiniteNumber
  /-- An integer has too many digits to be written. -/
  | integerTooLong
  /-- An integer is beyond the range of double precision. -/
  | integerTooLarge
  /-- Nothing can be waited for a negative time. -/
  | negativeDelay
  /-- A delay is NaN. -/
  | delayNotANumber
  /-- A delay is longer than a clock counts. -/
  | delayTooLong
  | tooDeep
  | undecodableText
  /-- A text holds surrogates and cannot be encoded. -/
  | unencodableText
  /-- A value of another shape was needed. -/
  | misshapen (kind : Kind)
  /-- A script of answers had none. -/
  | emptyScript
  deriving DecidableEq

namespace Failure

/-- The failure of reading a document. -/
def ofReadError : Json.ReadError → Failure
  | .malformed fault => .malformedDocument fault
  | .numeral fault => .badNumeral fault
  | .undecodable => .undecodableText
  | .tooDeep => .tooDeep

/-- A value that has no fields was asked for one. -/
def notARecord : Failure := .misshapen .notARecord

/-- A value does not support what was asked of it. -/
def wrongType : Failure := .misshapen .wrongType

def kind : Failure → Kind
  | .reported kind _ => kind
  | .cancelledBeforeAttempt | .cancelledInBackoff | .cancelled | .stoppedWaiting _ => .cancelled
  | .noAttempts _ | .attemptsSpent .. => .retryExhausted
  | .superseded .. => .superseded
  | .appDeleted .. | .noPod _ => .appFailed
  | .gaveUp _ => .openCancelled
  | .notReady .. => .openTimeout
  | .overClosed _ => .overClosed
  | .toolMissing => .toolMissing
  | .toolTimeout .. => .toolTimeout
  | .notLoggedIn => .notLoggedIn
  | .toolFailed _ | .unexpectedOutput _ => .controlPlane
  | .execRefused .. | .execBroken .. | .noExitStatus .. => .exec
  | .exited _ => .execExit
  | .chunkCount _ => .protocol
  | .shortBuffer .. => .shortBuffer
  | .streamClosed => .brokenPipe
  | .badSetting _ | .tooFewWorkers => .settings
  | .emptyPool | .unknownLevel _ | .badNumeral _ | .notANumber | .integerTooLong
  | .negativeDelay | .delayNotANumber => .badValue
  | .cannotListen .. | .noPort _ => .serverStart
  | .malformedDocument _ => .malformedDocument
  | .malformedBase64 _ => .malformedBase64
  | .infiniteNumber | .integerTooLarge | .delayTooLong => .overflow
  | .tooDeep => .tooDeep
  | .undecodableText => .undecodableText
  | .unencodableText => .unencodableText
  | .misshapen kind => kind
  | .emptyScript => .emptyScript

/-- Whether a failure belongs to a family. -/
def isIn (f : Failure) (family : Kind) : Bool := f.kind.isIn family

/-- How a failure that was told in its own words reads: a key that was missed is
quoted, and the cluster's reason stands under its status, that of an inner error. -/
def reportedMessage (kind : Kind) (detail : Text) : Text :=
  match kind with
  | .missingKey => detail.quoted
  | .cluster => "(500)\nReason: " ++ detail ++ "\n"
  | _ => detail

def message : Failure → Text
  | .reported kind detail => reportedMessage kind detail
  | .cancelledBeforeAttempt => "cancelled before attempt"
  | .cancelledInBackoff => "cancelled during backoff"
  | .cancelled => "cancelled"
  | .stoppedWaiting app => "stopped waiting for " ++ app
  | .noAttempts steps => "gave up after " ++ Text.ofInt steps ++ " attempts: None"
  | .attemptsSpent steps last =>
    "gave up after " ++ Text.ofInt steps ++ " attempts: " ++ last.message
  | .superseded label phase token _ =>
    label ++ ": " ++ phase ++ " request " ++ Text.ofNat token ++ " superseded"
  | .appDeleted app _ => "app " ++ app ++ " was deleted"
  | .noPod app => "app " ++ app ++ " is Live but reports no pod"
  | .gaveUp app => "gave up waiting for " ++ app
  | .notReady app timeout => app ++ " not ready within " ++ timeout.render ++ " seconds"
  | .overClosed app => "session " ++ app ++ " closed more times than opened"
  | .toolMissing => "oc CLI not found in PATH"
  | .toolTimeout timeout command =>
    "oc command timed out after " ++ (timeout.map Number.render).getD "None" ++ "s: " ++ command
  | .notLoggedIn => "Not logged in to the cluster"
  | .toolFailed complaint => "oc command failed: " ++ complaint
  | .unexpectedOutput fault => "unexpected oc output: " ++ fault.message
  | .execRefused ns pod reason =>
    "can't open exec stream to Pod " ++ ns ++ "/" ++ pod ++ ": " ++ reason
  | .execBroken pod cause => "exec stream to Pod " ++ pod ++ " failed: " ++ cause.message
  | .noExitStatus pod _ => "no exit status reported by Pod " ++ pod
  | .exited code => "command terminated with exit code " ++ Text.ofInt code
  | .chunkCount count => "expected one stdin chunk per message, got " ++ Text.ofNat count
  | .shortBuffer length size =>
    "stdin chunk of " ++ Text.ofNat length ++ " bytes exceeds buffer of " ++ Text.ofInt size
  | .streamClosed => "client stream closed"
  | .badSetting cause => "Invalid numeric setting: " ++ cause.message
  | .tooFewWorkers => "SESSIONGATE_MAX_WORKERS must be at least 1"
  | .emptyPool => "max_workers must be greater than 0"
  | .cannotListen address cause => "can't listen on " ++ address ++ ": " ++ cause.message
  | .noPort address => "can't listen on " ++ address
  | .unknownLevel level => "Unknown level: " ++ level.quoted
  | .malformedDocument fault => fault.message
  | .malformedBase64 fault => fault.message
  | .badNumeral fault => fault.message
  | .notANumber => "cannot convert float NaN to integer"
  | .infiniteNumber => "cannot convert float infinity to integer"
  | .integerTooLong =>
    "Exceeds the limit (" ++ Text.ofNat maxIntegerDigits ++
      " digits) for integer string conversion; " ++
      "use sys.set_int_max_str_digits() to increase the limit"
  | .integerTooLarge => "int too large to convert to float"
  | .negativeDelay => "sleep length must be non-negative"
  | .delayNotANumber => "Invalid value NaN (not a number)"
  | .delayTooLong => "timestamp too large to convert to C _PyTime_t"
  | .tooDeep => "maximum recursion depth exceeded"
  | .undecodableText | .unencodableText | .misshapen _ => []
  | .emptyScript => "empty script"

/-- The kind of the failure that led to this one, where one did. -/
def cause? : Failure → Option Kind
  | .attemptsSpent _ last => some last.kind
  | .superseded _ _ _ cause => some cause.kind
  | .appDeleted _ cause => some cause.kind
  | .toolMissing => some .fileNotFound
  | .unexpectedOutput _ => some .malformedDocument
  | .execRefused .. => some .cluster
  | .execBroken _ cause => some cause.kind
  | .noExitStatus _ cause => some cause.kind
  | .badSetting cause => some cause.kind
  | .cannotListen _ cause => some cause.kind
  | _ => none

end Failure

end AttachGate
