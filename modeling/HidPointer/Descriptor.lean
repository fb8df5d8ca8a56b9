import HidPointer.Bytes
import HidPointer.Mode

/-!
# Descriptors

The report descriptor of each mode, which tells the host how the reports of that mode are laid
out, and the class descriptor that announces its length. Every line of a table is one item; its
comment names the item and its value.
-/

set_option autoImplicit false

namespace HidPointer.Descriptor

/-- Three buttons and two relative axes. -/
def mouse : Bytes :=
  [ 0x05, 0x01, -- Usage Page (Generic Desktop)
    0x09, 0x02, -- Usage (Mouse)
    0xa1, 0x01, -- Collection (Application)
    0x09, 0x01, --   Usage (Pointer)
    0xa1, 0x00, --   Collection (Physical)
    0x05, 0x09, --     Usage Page (Button)
    0x19, 0x01, --     Usage Minimum (1)
    0x29, 0x03, --     Usage Maximum (3)
    0x15, 0x00, --     Logical Minimum (0)
    0x25, 0x01, --     Logical Maximum (1)
    0x95, 0x03, --     Report Count (3)
    0x75, 0x01, --     Report Size (1)
    0x81, 0x02, --     Input (Data, Variable, Absolute): the buttons
    0x95, 0x01, --     Report Count (1)
    0x75, 0x05, --     Report Size (5)
    0x81, 0x01, --     Input (Constant): padding
    0x05, 0x01, --     Usage Page (Generic Desktop)
    0x09, 0x30, --     Usage (X)
    0x09, 0x31, --     Usage (Y)
    0x15, 0x81, --     Logical Minimum (-127)
    0x25, 0x7f, --     Logical Maximum (127)
    0x75, 0x08, --     Report Size (8)
    0x95, 0x02, --     Report Count (2)
    0x81, 0x06, --     Input (Data, Variable, Relative): X and Y
    0xc0, --   End Collection
    0xc0 ] -- End Collection

/-- A tip switch and two absolute axes. -/
def singleTouch : Bytes :=
  [ 0x05, 0x0d, -- Usage Page (Digitizer)
    0x09, 0x04, -- Usage (Touch Screen)
    0xa1, 0x01, -- Collection (Application)
    0x09, 0x22, --   Usage (Finger)
    0xa1, 0x02, --   Collection (Logical)
    0x09, 0x42, --     Usage (Tip Switch)
    0x15, 0x00, --     Logical Minimum (0)
    0x25, 0x01, --     Logical Maximum (1)
    0x75, 0x01, --     Report Size (1)
    0x95, 0x01, --     Report Count (1)
    0x81, 0x02, --     Input (Data, Variable, Absolute): the tip switch
    0x75, 0x07, --     Report Size (7)
    0x95, 0x01, --     Report Count (1)
    0x81, 0x03, --     Input (Constant, Variable): padding
    0x05, 0x01, --     Usage Page (Generic Desktop)
    0x09, 0x30, --     Usage (X)
    0x15, 0x00, --     Logical Minimum (0)
    0x26, 0xff, 0x7f, -- Logical Maximum (32767)
    0x75, 0x10, --     Report Size (16)
    0x95, 0x01, --     Report Count (1)
    0x81, 0x02, --     Input (Data, Variable, Absolute): X
    0x09, 0x31, --     Usage (Y)
    0x81, 0x02, --     Input (Data, Variable, Absolute): Y
    0xc0, --   End Collection
    0xc0 ] -- End Collection

/-- The start of the multi-touch descriptor. -/
def multiTouchOpening : Bytes :=
  [ 0x05, 0x0d, -- Usage Page (Digitizer)
    0x09, 0x04, -- Usage (Touch Screen)
    0xa1, 0x01 ] -- Collection (Application)

/-- One contact slot: a tip switch, an identifier and two absolute axes. -/
def finger : Bytes :=
  [ 0x09, 0x22, --   Usage (Finger)
    0xa1, 0x02, --   Collection (Logical)
    0x09, 0x42, --     Usage (Tip Switch)
    0x15, 0x00, --     Logical Minimum (0)
    0x25, 0x01, --     Logical Maximum (1)
    0x75, 0x01, --     Report Size (1)
    0x95, 0x01, --     Report Count (1)
    0x81, 0x02, --     Input (Data, Variable, Absolute): the tip switch
    0x75, 0x07, --     Report Size (7)
    0x95, 0x01, --     Report Count (1)
    0x81, 0x03, --     Input (Constant, Variable): padding
    0x09, 0x51, --     Usage (Contact Identifier)
    0x15, 0x00, --     Logical Minimum (0)
    0x25, UInt8.ofNat (contactSlots - 1), -- Logical Maximum (the last slot)
    0x75, 0x08, --     Report Size (8)
    0x95, 0x01, --     Report Count (1)
    0x81, 0x02, --     Input (Data, Variable, Absolute): the identifier
    0x05, 0x01, --     Usage Page (Generic Desktop)
    0x09, 0x30, --     Usage (X)
    0x15, 0x00, --     Logical Minimum (0)
    0x26, 0xff, 0x7f, -- Logical Maximum (32767)
    0x75, 0x10, --     Report Size (16)
    0x95, 0x01, --     Report Count (1)
    0x81, 0x02, --     Input (Data, Variable, Absolute): X
    0x09, 0x31, --     Usage (Y)
    0x81, 0x02, --     Input (Data, Variable, Absolute): Y
    0x05, 0x0d, --     Usage Page (Digitizer)
    0xc0 ] --   End Collection

/-- The contact count, and the end of the multi-touch descriptor. -/
def multiTouchClosing : Bytes :=
  [ 0x09, 0x54, --   Usage (Contact Count)
    0x15, 0x00, --   Logical Minimum (0)
    0x25, UInt8.ofNat contactSlots, --   Logical Maximum (all slots)
    0x75, 0x08, --   Report Size (8)
    0x95, 0x01, --   Report Count (1)
    0x81, 0x02, --   Input (Data, Variable, Absolute): the contact count
    0xc0 ] -- End Collection

/-- One finger for each contact slot, then the contact count. -/
def multiTouch : Bytes :=
  multiTouchOpening ++ (List.replicate contactSlots finger).flatten ++ multiTouchClosing

def ofMode : Mode → Bytes
  | .mouse => mouse
  | .singleTouch => singleTouch
  | .multiTouch => multiTouch

/-- The class descriptor that announces a report descriptor of the given length. -/
def announcing (length : UInt16) : Bytes :=
  [ 0x09, -- length of this descriptor
    0x21, -- type of this descriptor: HID
    0x11, 0x01, -- release of the HID class: 1.11
    0x00, -- country: none
    0x01, -- descriptors announced: one
    0x22 ] ++ -- type of the descriptor announced: report
    Bytes.ofWord length

def classOfMode (mode : Mode) : Bytes :=
  announcing (UInt16.ofNat (ofMode mode).length)

theorem length_ofMode (mode : Mode) :
    (ofMode mode).length = match mode with
      | .mouse => 50
      | .singleTouch => 49
      | .multiTouch => 299 := by
  cases mode <;> decide +kernel

end HidPointer.Descriptor
