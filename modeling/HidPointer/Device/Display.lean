import HidPointer.Device.Request

/-!
# Requests in a log

The texts by which requests, reports and parked reads are shown to a person who reads a log.
-/

set_option autoImplicit false

namespace HidPointer

namespace Report

private def truthText : Bool → String
  | true => "true"
  | false => "false"

private def bracketed (items : List String) : String :=
  "[" ++ ", ".intercalate items ++ "]"

/-- A record as it is displayed: its name, then its fields in braces. -/
private def recordText (name : String) (fields : List (String × String)) : String :=
  let shown := fields.map fun (field, value) => field ++ ": " ++ value
  name ++ " \x7b " ++ ", ".intercalate shown ++ " \x7d"

private def contactText (contact : Contact) : String :=
  recordText "TouchContact"
    [("id", toString contact.id.toNat), ("present", truthText contact.present),
      ("x", toString contact.x.toNat), ("y", toString contact.y.toNat)]

def display : Report → String
  | mouse buttons dx dy =>
      recordText "Mouse"
        [("buttons", toString buttons.toNat), ("dx", toString dx.toInt),
          ("dy", toString dy.toInt)]
  | singleTouch present x y =>
      recordText "SingleTouch"
        [("present", truthText present), ("x", toString x.toNat), ("y", toString y.toNat)]
  | multiTouch contacts =>
      recordText "MultiTouch" [("contacts", bracketed (contacts.map contactText))]

end Report

namespace ParkedRead

/-- A parked read as it is displayed in a log. The completion is not shown. -/
def display {κ : Type} (read : ParkedRead κ) : String :=
  s!"PendingRead \x7b id: {read.id}, capacity: {read.capacity}, .. \x7d"

end ParkedRead

namespace Request

/-- A request as it is displayed in a log: its contents if it has any, else its name. -/
def display {κ : Type} : Request κ → String
  | setMode tag => s!"SetDeviceMode \x7b tag: {tag.toNat} \x7d"
  | submit report => s!"SubmitInputReport({report.display})"
  | submitRaw tag bytes => s!"SubmitRawReport \x7b tag: {tag.toNat}, bytes: {bytes.quoted} \x7d"
  | read capacity _ => s!"ReadInputReport \x7b capacity: {capacity}, .. \x7d"
  | cancel id => s!"CancelRead \x7b id: {id} \x7d"
  | request => request.name

end Request

end HidPointer
