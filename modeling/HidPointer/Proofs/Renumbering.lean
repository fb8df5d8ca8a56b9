import HidPointer.Activity
import HidPointer.Proofs.Effect

/-!
# Numbers are names

A device gives out numbers: to the reads it parks, to its epochs, and in its counters. It never
decides anything by them except whether two numbers of reads are the same. So a device on which
other numbers are in use does the same under these numbers (`Device.serve_renumber`).
-/

set_option autoImplicit false

namespace HidPointer

namespace Counters

def add (counters more : Counters) : Counters where
  accepted := counters.accepted + more.accepted
  delivered := counters.delivered + more.delivered
  buffered := counters.buffered + more.buffered
  overflowDrops := counters.overflowDrops + more.overflowDrops
  tooSmallDrops := counters.tooSmallDrops + more.tooSmallDrops
  rejected := counters.rejected + more.rejected
  canceled := counters.canceled + more.canceled
  reconfigured := counters.reconfigured + more.reconfigured

def sub (counters fewer : Counters) : Counters where
  accepted := counters.accepted - fewer.accepted
  delivered := counters.delivered - fewer.delivered
  buffered := counters.buffered - fewer.buffered
  overflowDrops := counters.overflowDrops - fewer.overflowDrops
  tooSmallDrops := counters.tooSmallDrops - fewer.tooSmallDrops
  rejected := counters.rejected - fewer.rejected
  canceled := counters.canceled - fewer.canceled
  reconfigured := counters.reconfigured - fewer.reconfigured

theorem add_right_comm (counters more further : Counters) :
    (counters.add more).add further = (counters.add further).add more := by
  simp only [add, Nat.add_right_comm]

theorem add_sub_cancel (counters more : Counters) : (counters.add more).sub more = counters := by
  simp only [add, sub, Nat.add_sub_cancel]

end Counters

/-- A change of the numbers of reads and epochs and of the counters. -/
structure Renumbering where
  id : Nat → Nat
  epoch : Nat → Nat
  counters : Counters → Counters

section Renumber

variable {κ ν : Type} (change : Renumbering)

def Request.renumber : Request κ → Request κ
  | .cancel id => .cancel (change.id id)
  | request => request

def Transition.renumber (transition : Transition) : Transition :=
  { transition with epoch := change.epoch transition.epoch }

def SubmitStatus.renumber : SubmitStatus → SubmitStatus
  | .delivered id => .delivered (change.id id)
  | status => status

def Response.renumber : Response → Response
  | .modeSet transition => .modeSet (transition.renumber change)
  | .accepted status => .accepted (status.renumber change)
  | .pending id => .pending (change.id id)
  | .counters values => .counters (change.counters values)
  | response => response

def Reply.renumber : Reply → Reply
  | .ok response => .ok (response.renumber change)
  | .error error => .error error

def Event.renumber : Event → Event
  | .modeChanged transition flushedReads discardedReports =>
      .modeChanged (transition.renumber change) flushedReads discardedReports
  | .readCanceled id => .readCanceled (change.id id)
  | event => event

def ParkedRead.renumber (read : ParkedRead κ) : ParkedRead κ :=
  { read with id := change.id read.id }

def Duty.renumber : Duty κ → Duty κ
  | .complete read result => .complete (read.renumber change) result
  | .publish event => .publish (event.renumber change)

def Served.renumber (served : Served κ) : Served κ where
  reply := Reply.renumber change served.reply
  duties := served.duties.map (·.renumber change)

def Moment.renumber : Moment ν → Moment ν
  | .served request reply => .served (request.renumber change) (Reply.renumber change reply)
  | .completed id result => .completed (change.id id) result
  | .published event => .published (event.renumber change)
  | .noted entry => .noted entry

/-- The same device under other numbers. -/
def Device.renumber (device : Device κ) : Device κ :=
  { device with
    active := { device.active with epoch := change.epoch device.active.epoch }
    queue :=
      { device.queue with
        parked := device.queue.parked.map (·.renumber change)
        counters := change.counters device.queue.counters }
    nextId := change.id device.nextId }

end Renumber

/-- The change respects what a device whose next read has the number `first` can tell of its
numbers: which of them are the same, which comes next, and by how much a counter grows. -/
structure Renumbering.Steady (change : Renumbering) (first : Nat) : Prop where
  id_inj : ∀ {one other : Nat}, change.id one = change.id other → one = other
  id_succ : ∀ id, first ≤ id → change.id (id + 1) = change.id id + 1
  epoch_succ : ∀ epoch, change.epoch (epoch + 1) = change.epoch epoch + 1
  counters_add : ∀ counters more : Counters,
    change.counters (counters.add more) = (change.counters counters).add more

theorem Renumbering.Steady.mono {change : Renumbering} {first later : Nat}
    (steady : change.Steady first) (behind : first ≤ later) : change.Steady later :=
  ⟨steady.id_inj, fun id above => steady.id_succ id (Nat.le_trans behind above),
    steady.epoch_succ, steady.counters_add⟩

/-- The changes bring every number back. -/
structure Renumbering.Undoes (back change : Renumbering) : Prop where
  id : ∀ id, back.id (change.id id) = id
  epoch : ∀ epoch, back.epoch (change.epoch epoch) = epoch
  counters : ∀ counters, back.counters (change.counters counters) = counters

theorem Reply.renumber_back {back change : Renumbering} (undoes : back.Undoes change)
    (reply : Reply) :
    Reply.renumber back (Reply.renumber change reply) = reply := by
  cases reply with
  | error error => rfl
  | ok response =>
      cases response with
      | modeSet | pending | counters =>
          simp only [renumber, Response.renumber, Transition.renumber, undoes.id, undoes.epoch,
            undoes.counters]
      | accepted status =>
          cases status <;> simp only [renumber, Response.renumber, SubmitStatus.renumber, undoes.id]
      | _ => rfl

theorem Request.map_renumber {κ α : Type} (convert : κ → α) (change : Renumbering)
    (request : Request κ) :
    (request.renumber change).map convert = (request.map convert).renumber change := by
  cases request <;> rfl

theorem Request.Submits.renumber {κ : Type} {request : Request κ} {mode : Mode} {bytes : Bytes}
    (submits : request.Submits mode bytes) (change : Renumbering) :
    (request.renumber change).Submits mode bytes := by
  cases submits with
  | typed encoded => exact .typed encoded
  | raw known => exact .raw known

namespace Device

variable {κ : Type} {device after : Device κ} {request : Request κ} {served : Served κ}

theorem Tells.renumber {response : Response} (tells : device.Tells request response)
    (change : Renumbering) :
    (device.renumber change).Tells (request.renumber change) (response.renumber change) := by
  cases tells with
  | attributes => exact .attributes
  | classDescriptor => exact .classDescriptor
  | reportDescriptor => exact .reportDescriptor
  | mode => exact .mode
  | counters => exact .counters

theorem Accepts.renumber {bytes : Bytes} (accepts : device.Accepts request bytes)
    (change : Renumbering) :
    (device.renumber change).Accepts (request.renumber change) bytes :=
  ⟨accepts.submits.renumber change, accepts.length⟩

theorem queued_renumber {change : Renumbering} {first : Nat} (steady : change.Steady first)
    (device : Device κ) (buffered : List Bytes) (parked : List (ParkedRead κ))
    (more : Counters) :
    (device.renumber change).queued buffered (parked.map (·.renumber change))
        ((device.renumber change).queue.counters.add more) =
      (device.queued buffered parked (device.queue.counters.add more)).renumber change := by
  simp only [renumber, queued, steady.counters_add]

/-- An effect is the same under other numbers. -/
theorem Effect.renumber {change : Renumbering} (effect : Effect device request after served)
    (steady : change.Steady device.nextId) :
    Effect (device.renumber change) (request.renumber change) (after.renumber change)
      (served.renumber change) := by
  have parked_eq {reads : List (ParkedRead κ)} (parked : device.queue.parked = reads) :
      (device.renumber change).queue.parked = reads.map (·.renumber change) := by
    rw [← parked]
    rfl
  cases effect with
  | told tells => exact .told (tells.renumber change)
  | noSuchMode unknown => exact .noSuchMode unknown
  | @switched tag mode known =>
      have counted : change.counters { device.queue.counters with
          reconfigured := device.queue.counters.reconfigured + device.queue.parked.length } =
          { change.counters device.queue.counters with
            reconfigured := (change.counters device.queue.counters).reconfigured +
              device.queue.parked.length } :=
        steady.counters_add _ { reconfigured := device.queue.parked.length }
      have effect : Effect (device.renumber change) (.setMode tag) _ _ := .switched known
      simp only [Device.renumber, List.map_map, List.length_map, ← counted, ← steady.epoch_succ]
        at effect
      simp only [Device.renumber, Served.renumber, Reply.renumber, Response.renumber,
        List.map_append, List.map_map]
      exact effect
  | unknownTag unknown => exact .unknownTag unknown
  | @unencodable report _ refused =>
      have effect : Effect (device.renumber change) (.submit report) _ _ := .unencodable refused
      exact effect.of_eq (queued_renumber steady device _ _ { rejected := 1 })
  | invalid submits refused =>
      have effect : Effect (device.renumber change) (request.renumber change) _ _ :=
        .invalid (submits.renumber change) refused
      exact effect.of_eq (queued_renumber steady device _ _ { rejected := 1 })
  | delivered accepts parked room =>
      have effect := Effect.delivered (accepts.renumber change) (parked_eq parked) room
      exact effect.of_eq (queued_renumber steady device _ _ { accepted := 1, delivered := 1 })
  | tooSmall accepts parked small =>
      have effect := Effect.tooSmall (accepts.renumber change) (parked_eq parked) small
      exact effect.of_eq (queued_renumber steady device _ _ { accepted := 1, tooSmallDrops := 1 })
  | buffered accepts parked room =>
      have effect := Effect.buffered (accepts.renumber change) (parked_eq parked) room
      exact effect.of_eq (queued_renumber steady device _ [] { accepted := 1, buffered := 1 })
  | displaced accepts parked full displaces =>
      have effect :=
        Effect.displaced (accepts.renumber change) (parked_eq parked) full displaces
      exact effect.of_eq
        (queued_renumber steady device _ [] { accepted := 1, overflowDrops := 1, buffered := 1 })
  | dropped accepts parked full drops =>
      have effect := Effect.dropped (accepts.renumber change) (parked_eq parked) full drops
      exact effect.of_eq (queued_renumber steady device _ [] { accepted := 1, overflowDrops := 1 })
  | noRoom small => exact .noRoom small
  | @ready capacity completion _ _ room buffered =>
      have effect : Effect (device.renumber change) (.read capacity completion) _ _ :=
        .ready room buffered
      exact effect.of_eq (queued_renumber steady device _ _ { delivered := 1 })
  | @parked capacity completion room buffered =>
      have effect : Effect (device.renumber change) (.read capacity completion) _ _ :=
        .parked room buffered
      refine effect.of_eq ?_
      simp only [Device.renumber, queued, List.map_append, List.map_cons, List.map_nil,
        ParkedRead.renumber, steady.id_succ _ (Nat.le_refl _)]
  | @notParked id absent =>
      refine .notParked ?_
      rw [parked_eq rfl]
      intro read member same
      obtain ⟨original, isParked, rfl⟩ := List.mem_map.mp member
      exact absent original isParked (steady.id_inj same)
  | @canceled front back read parked first =>
      have place : (device.renumber change).queue.parked =
          front.map (·.renumber change) ++ read.renumber change ::
            back.map (·.renumber change) := by
        rw [parked_eq parked, List.map_append, List.map_cons]
      have passed : ∀ other ∈ front.map (·.renumber change),
          other.id ≠ (read.renumber change).id := by
        intro other member same
        obtain ⟨original, before, rfl⟩ := List.mem_map.mp member
        exact first original before (steady.id_inj same)
      have effect := Effect.canceled place passed
      rw [← List.map_append] at effect
      exact effect.of_eq (queued_renumber steady device _ _ { canceled := 1 })

/-- A device does the same under other numbers. -/
theorem serve_renumber {change : Renumbering} (steady : change.Steady device.nextId)
    (request : Request κ) :
    (device.renumber change).serve (request.renumber change) =
      ((device.serve request).1.renumber change, (device.serve request).2.renumber change) :=
  ((device.serve_effect request).renumber steady).serve_eq

theorem Effect.nextId_le (effect : Effect device request after served) :
    device.nextId ≤ after.nextId := by
  cases effect with
  | parked => exact Nat.le_succ _
  | _ => exact Nat.le_refl _

end Device

end HidPointer
