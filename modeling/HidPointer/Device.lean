import HidPointer.ActiveMode
import HidPointer.Device.Request
import HidPointer.Report.Wire

/-!
# The device

A device is one state: what it presents, its queue, and the number of the next read to be parked.
`Device.serve` is the whole effect of a request on that state, in one step. What is then due to
others, completions and events, comes out as a list of duties in the order in which they are
performed. None of them has begun when the state is already the new one, so a completion can
ask the device for more.
-/

set_option autoImplicit false

namespace HidPointer

/-- A device. `κ` is what its parked reads keep for their results. -/
structure Device (κ : Type) where
  attributes : Attributes
  policies : Policies
  active : ActiveMode
  queue : ReportQueue κ
  /-- Like the counters of the queue it stays below 2^64. -/
  nextId : Nat := 1
  deriving Repr

/-- What remains to be done for others after a step of the device. -/
inductive Duty (κ : Type) where
  | complete (read : ParkedRead κ) (result : ReadResult)
  | publish (event : Event)
  deriving Repr

/-- What a step yields: the answer, and the duties in the order of their performance. -/
structure Served (κ : Type) where
  reply : Reply
  duties : List (Duty κ) := []

namespace Device

variable {κ : Type}

/-- A device with the given settings, whether it can operate with them or not. It is what is made
of them if the room for the buffer of the first mode can be reserved. -/
def create (attributes : Attributes) (initialMode : Mode) (policies : Policies) : Device κ :=
  { attributes := attributes
    policies := policies
    active := .initial initialMode
    queue := { policy := policies.get initialMode } }

/-- A device for a valid configuration. The room for a full buffer of the first mode is reserved at
once. The buffers of other modes grow only as reports arrive. -/
def ofConfig (config : Config) : Except ConfigFault (Device κ) := do
  config.validate
  if (config.queue.get config.device.initialMode).Reservable then
    return create config.device.attributes config.device.initialMode config.queue
  else
    throw .capacityOverflow

def mode (device : Device κ) : Mode :=
  device.active.mode

/-- Switches the mode. All that waits in the queue is flushed; the event follows the completions
of the flushed reads. -/
def switchMode (device : Device κ) (mode : Mode) : Device κ × Served κ :=
  let (active, transition) := device.active.switch mode
  let (queue, flushed) := device.queue.flush (device.policies.get mode)
  let event := .modeChanged transition flushed.reads.length flushed.discarded
  ({ device with active := active, queue := queue },
    { reply := .ok (.modeSet transition)
      duties :=
        flushed.reads.map (.complete · (.error .reconfigured)) ++ [.publish event] })

def refuse (device : Device κ) (fault : ReportFault) : Device κ × Served κ :=
  ({ device with queue := device.queue.reject }, { reply := .error (.validation fault) })

def submitBytes (device : Device κ) (mode : Mode) (bytes : Bytes) : Device κ × Served κ :=
  match device.active.validate mode bytes.length with
  | .error fault => device.refuse fault
  | .ok () =>
      let (queue, outcome) := device.queue.push bytes
      let lost : Duty κ := .publish (.reportDropped mode .overflow)
      ({ device with queue := queue },
        match outcome with
        | .resolved read result =>
            { reply := .ok (.accepted (.delivered read.id))
              duties :=
                match result with
                | .ok _ => [.complete read result]
                | .error _ =>
                    [.publish (.reportDropped mode .bufferTooSmall), .complete read result] }
        | .buffered => { reply := .ok (.accepted .buffered) }
        | .bufferedWithDrop => { reply := .ok (.accepted .bufferedWithDrop), duties := [lost] }
        | .dropped => { reply := .ok (.accepted .dropped), duties := [lost] })

/-- Answers a read from the buffer, or parks it. The reader must offer room for a report of the
active mode. -/
def beginRead (device : Device κ) (capacity : Nat) (completion : κ) : Device κ × Served κ :=
  let required := device.mode.byteLength
  if capacity < required then
    (device, { reply := .error (.bufferTooSmall required capacity) })
  else
    match device.queue.pop with
    | some (queue, report) =>
        ({ device with queue := queue }, { reply := .ok (.ready report) })
    | none =>
        let read := { id := device.nextId, capacity := capacity, completion := completion }
        ({ device with queue := device.queue.park read, nextId := device.nextId + 1 },
          { reply := .ok (.pending device.nextId) })

def cancelRead (device : Device κ) (id : Nat) : Device κ × Served κ :=
  match device.queue.cancel id with
  | none => (device, { reply := .ok (.canceled false) })
  | some (queue, read) =>
      ({ device with queue := queue },
        { reply := .ok (.canceled true)
          duties := [.complete read (.error .canceled), .publish (.readCanceled id)] })

/-- The effect of a request on the device, and all that it leads to. A raw submission with a tag
that no mode has is refused before the device sees it, and is not counted. -/
def serve (device : Device κ) : Request κ → Device κ × Served κ
  | .attributes => (device, { reply := .ok (.attributes device.attributes) })
  | .classDescriptor =>
      (device, { reply := .ok (.classDescriptor (Descriptor.classOfMode device.mode)) })
  | .reportDescriptor =>
      (device, { reply := .ok (.reportDescriptor device.active.descriptor) })
  | .mode => (device, { reply := .ok (.mode device.mode) })
  | .setMode tag =>
      match Mode.ofTag tag with
      | .error error => (device, { reply := .error error })
      | .ok mode => device.switchMode mode
  | .submit report =>
      match report.encode with
      | .error fault => device.refuse fault
      | .ok bytes => device.submitBytes report.mode bytes
  | .submitRaw tag bytes =>
      match Mode.ofTag? tag with
      | none => (device, { reply := .error (.validation (.unknownTag tag)) })
      | some mode => device.submitBytes mode bytes
  | .read capacity completion => device.beginRead capacity completion
  | .cancel id => device.cancelRead id
  | .counters => (device, { reply := .ok (.counters device.queue.counters) })

/-- The end of a device: every parked read is canceled, oldest first. -/
def retire (device : Device κ) : Device κ × List (Duty κ) :=
  let (queue, reads) := device.queue.drain
  ({ device with queue := queue },
    reads.flatMap fun read =>
      [.complete read (.error .canceled), .publish (.readCanceled read.id)])

end Device

end HidPointer
