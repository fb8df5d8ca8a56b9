import HidPointer.Json.Reader
import HidPointer.Report
import HidPointer.Mode

/-!
# JSON shape of reports

A report is a record whose field `mode` tells which other fields there are.
-/

set_option autoImplicit false

namespace HidPointer

namespace Contact

def toJson (contact : Contact) : Json :=
  .object
    [("id", .nat contact.id.toNat), ("present", .bool contact.present),
      ("x", .nat contact.x.toNat), ("y", .nat contact.y.toNat)]

def ofJson? (value : Json) : Option Contact := do
  let fields ← value.fields? ["id", "present", "x", "y"]
  let id ← fields.required "id" Document.byte?
  let present ← fields.required "present" Json.bool?
  let x ← fields.required "x" Document.word?
  let y ← fields.required "y" Document.word?
  return { id, present, x, y }

end Contact

namespace Report

def toJson : Report → Json
  | mouse buttons dx dy =>
      .object
        [("mode", .text Mode.mouse.name), ("buttons", .nat buttons.toNat),
          ("dx", .int dx.toInt), ("dy", .int dy.toInt)]
  | singleTouch present x y =>
      .object
        [("mode", .text Mode.singleTouch.name), ("present", .bool present),
          ("x", .nat x.toNat), ("y", .nat y.toNat)]
  | multiTouch contacts =>
      .object
        [("mode", .text Mode.multiTouch.name), ("contacts", .arr (contacts.map Contact.toJson))]

/-- The report of a mode that the rest of a record makes up. The fields of a mouse report have
zero as their default. -/
def ofRest? (value : Json) : Mode → Option Report
  | .mouse => do
      let fields ← value.fields? ["buttons", "dx", "dy"]
      let buttons ← fields.optional "buttons" Document.byte? 0
      let dx ← fields.optional "dx" Json.signedByte? 0
      let dy ← fields.optional "dy" Json.signedByte? 0
      return mouse buttons dx dy
  | .singleTouch => do
      let fields ← value.fields? ["present", "x", "y"]
      let present ← fields.required "present" Json.bool?
      let x ← fields.required "x" Document.word?
      let y ← fields.required "y" Document.word?
      return singleTouch present x y
  | .multiTouch => do
      let fields ← value.fields? ["contacts"]
      let contacts ← fields.required "contacts" (Json.list? Contact.ofJson?)
      return multiTouch contacts

/-- A report that came directly is kept until its mode is known, so all of it must denote
something. -/
def ofJson? (route : Json.Route) (value : Json) : Option Report := do
  if route = .direct ∧ ¬ value.isDefinite Json.maxLevels then none
  else
    let (mode, rest) ← value.tagged? "mode" Mode.names route
    ofRest? rest mode

end Report

end HidPointer
