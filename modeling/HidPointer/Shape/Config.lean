import HidPointer.Config
import HidPointer.Shape.Basic

/-!
# JSON shape of the configuration

How a configuration is written. `Config.read?` reads it, from JSON as from any other notation.
-/

set_option autoImplicit false

namespace HidPointer

namespace DeviceConfig

def toJson (config : DeviceConfig) : Json :=
  .object
    [("vendor_id", .nat config.attributes.vendorId.toNat),
      ("product_id", .nat config.attributes.productId.toNat),
      ("version_number", .nat config.attributes.versionNumber.toNat),
      ("initial_mode", config.initialMode.toJson)]

end DeviceConfig

namespace Policies

def toJson (policies : Policies) : Json :=
  .object
    [("mouse", policies.mouse.toJson), ("single_touch", policies.singleTouch.toJson),
      ("multi_touch", policies.multiTouch.toJson)]

end Policies

namespace LogConfig

def toJson (config : LogConfig) : Json :=
  .object [("throttle_secs", .nat config.throttleSeconds)]

end LogConfig

namespace Config

def toJson (config : Config) : Json :=
  .object
    [("device", config.device.toJson), ("queue", config.queue.toJson),
      ("log", config.log.toJson)]

end Config

end HidPointer
