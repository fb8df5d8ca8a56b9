import HidPointer.Config
import HidPointer.Document

/-!
# Reading a configuration

What a document says is laid over the defaults: every section and every field it does not mention
stays as it is. Only a policy is given as a whole. Entries of unknown names are passed over.
-/

set_option autoImplicit false

namespace HidPointer

variable {ν : Type} [Document ν]

/-- A policy needs both its fields. -/
def Policy.read? (value : ν) : Option Policy := do
  let fields ← Document.fields? ["capacity", "overflow"] value
  let capacity ← fields.required "capacity" Document.count?
  let overflow ← fields.required "overflow" (Document.variant? Overflow.names)
  return { capacity, overflow }

def DeviceConfig.read? (value : ν) : Option DeviceConfig := do
  let base := default.attributes
  let fields ←
    Document.fields? ["vendor_id", "product_id", "version_number", "initial_mode"] value
  let vendorId ← fields.optional "vendor_id" Document.word? base.vendorId
  let productId ← fields.optional "product_id" Document.word? base.productId
  let versionNumber ← fields.optional "version_number" Document.word? base.versionNumber
  let initialMode ←
    fields.optional "initial_mode" (Document.variant? Mode.names) default.initialMode
  return { attributes := { vendorId, productId, versionNumber }, initialMode }

def Policies.read? (value : ν) : Option Policies := do
  let fields ← Document.fields? ["mouse", "single_touch", "multi_touch"] value
  let mouse ← fields.optional "mouse" Policy.read? default.mouse
  let singleTouch ← fields.optional "single_touch" Policy.read? default.singleTouch
  let multiTouch ← fields.optional "multi_touch" Policy.read? default.multiTouch
  return { mouse, singleTouch, multiTouch }

def LogConfig.read? (value : ν) : Option LogConfig := do
  let fields ← Document.fields? ["throttle_secs"] value
  let throttleSeconds ←
    fields.optional "throttle_secs" Document.count? default.throttleSeconds
  return { throttleSeconds }

def Config.read? (value : ν) : Option Config := do
  let fields ← Document.fields? ["device", "queue", "log"] value
  let device ← fields.optional "device" DeviceConfig.read? .default
  let queue ← fields.optional "queue" Policies.read? .default
  let log ← fields.optional "log" LogConfig.read? .default
  return { device, queue, log }

end HidPointer
