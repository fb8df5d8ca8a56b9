import HidPointer.Queue.Policy

/-!
# Configuration

The settings of a device: its identity, the mode it starts in, the buffering of each mode, and how
often a repeated warning is written.
-/

set_option autoImplicit false

namespace HidPointer

structure Attributes where
  vendorId : UInt16
  productId : UInt16
  /-- The version of the device, as a decimal number in hexadecimal digits. -/
  versionNumber : UInt16
  deriving DecidableEq, Repr

structure DeviceConfig where
  attributes : Attributes
  initialMode : Mode
  deriving DecidableEq, Repr

structure LogConfig where
  throttleSeconds : Nat
  deriving DecidableEq, Repr

structure Config where
  device : DeviceConfig
  queue : Policies
  log : LogConfig
  deriving DecidableEq, Repr

/-- A setting that no device can operate with. -/
inductive ConfigFault where
  /-- The buffer of the mode holds nothing. -/
  | noCapacity (mode : Mode)
  /-- The buffer of the first mode is larger than what can be reserved. No check finds this: the
  program breaks off where it asks for the room. -/
  | capacityOverflow
  /-- A reason stated by an embedder. -/
  | other (reason : String)
  deriving DecidableEq, Repr

namespace ConfigFault

def text : ConfigFault → String
  | noCapacity mode => s!"queue.{mode.name}.capacity must be at least 1"
  | capacityOverflow => "capacity overflow"
  | other reason => reason

end ConfigFault

namespace DeviceConfig

def default : DeviceConfig :=
  { attributes := { vendorId := 0x1d6b, productId := 0x0104, versionNumber := 0x0100 }
    initialMode := .mouse }

end DeviceConfig

namespace LogConfig

def default : LogConfig :=
  { throttleSeconds := 5 }

end LogConfig

namespace Config

def default : Config :=
  { device := .default, queue := .default, log := .default }

/-- Every mode must be able to buffer a report; the first that cannot is named. -/
def validate (config : Config) : Except ConfigFault Unit :=
  match Mode.all.find? fun mode => (config.queue.get mode).capacity == 0 with
  | some mode => .error (.noCapacity mode)
  | none => .ok ()

end Config

end HidPointer
