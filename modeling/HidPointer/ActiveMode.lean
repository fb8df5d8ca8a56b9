import HidPointer.Descriptor
import HidPointer.Error
import HidPointer.Event

/-!
# The active mode

The mode that a device presents, the descriptor that goes with it, and the epoch. Every switch
starts an epoch, also one to the mode that is already active.
-/

set_option autoImplicit false

namespace HidPointer

/-- What a device presents to its host at the moment. -/
structure ActiveMode where
  mode : Mode
  descriptor : Bytes
  /-- The number of switches so far. Like the counters of a device it stays below 2^64. -/
  epoch : Nat
  deriving DecidableEq, Repr

namespace ActiveMode

def initial (mode : Mode) : ActiveMode :=
  { mode := mode, descriptor := Descriptor.ofMode mode, epoch := 0 }

def switch (active : ActiveMode) (mode : Mode) : ActiveMode × Transition :=
  ({ mode := mode, descriptor := Descriptor.ofMode mode, epoch := active.epoch + 1 },
    { source := active.mode, target := mode, epoch := active.epoch + 1 })

/-- Whether a report of the given mode and length can be taken at the moment. -/
def validate (active : ActiveMode) (mode : Mode) (length : Nat) : Except ReportFault Unit :=
  if mode ≠ active.mode then .error (.wrongMode mode active.mode)
  else if length ≠ mode.byteLength then .error (.wrongLength mode length)
  else .ok ()

end ActiveMode

end HidPointer
