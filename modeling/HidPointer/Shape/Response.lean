import HidPointer.Device
import HidPointer.Shape.Basic

/-!
# JSON shapes of answers

How responses, errors and results of reads are written.
-/

set_option autoImplicit false

namespace HidPointer

namespace Response

def toJson : Response → Json
  | .attributes identity => identity.toJson
  | .classDescriptor bytes => .bytes bytes
  | .reportDescriptor bytes => .bytes bytes
  | .mode active => active.toJson
  | .modeSet transition => transition.toJson
  | .accepted status => status.toJson
  | .ready bytes => .object [("report", .bytes bytes)]
  | .pending id => .object [("pending", .nat id)]
  | .canceled wasParked => .object [("canceled", .bool wasParked)]
  | .counters counts => counts.toJson

end Response

namespace DeviceError

def members (error : DeviceError) : List (String × Json) :=
  [("error", .text error.code), ("message", .text error.message)]

end DeviceError

def ReadResult.members : ReadResult → List (String × Json)
  | .ok bytes => [("report", .bytes bytes)]
  | .error error => error.members

/-- What an answer is as a value of its own: the response, or an object that tells of the error. -/
def Reply.toJson : Reply → Json
  | .ok response => response.toJson
  | .error error => .object error.members

end HidPointer
