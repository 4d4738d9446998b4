import AttachGate.Wire.Response

/-!
# The service

The one method that clients call: a stream of messages each way.
-/

namespace AttachGate

/-- A method that clients can call. -/
structure Method where
  path : Text
  streamsRequests : Bool
  streamsResponses : Bool
  /-- How a request is read, with room for brackets to be nested so deep. -/
  decode : Nat → Bytes → Except Failure Request

namespace Service

def name : Text := "sessiongate.AppGate"

/-- Attaches a client to an app. -/
def openApp : Method :=
  { path := "/" ++ name ++ "/OpenApp"
    streamsRequests := true
    streamsResponses := true
    decode := Request.decode }

def method? (path : Text) : Option Method := if path = openApp.path then some openApp else none

end Service

end AttachGate
