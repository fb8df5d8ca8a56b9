import HidPointer.Device.Run

/-!
# Asynchronous reads

A future is a read that someone polls for its result. It does nothing before the first poll, which
issues the read. If the read is parked, its result is put down for the future, and a later poll
picks it up. Who drops a future that holds a parked read cancels that read.
-/

set_option autoImplicit false

namespace HidPointer

/-- The state of a future that has not yielded its result. -/
inductive Future where
  /-- Not polled so far. -/
  | fresh (capacity : Nat)
  /-- Its read is parked, or was when last looked at. -/
  | waiting (id : Nat)
  /-- Its read is over, and the result lies ready. -/
  | settled (id : Nat) (result : ReadResult)

inductive Poll where
  | waiting
  | ready (result : ReadResult)

namespace Future

variable {ν : Type}

/-- The result of a parked read, if its completion is among the moments. -/
def resultIn (moments : List (Moment ν)) (id : Nat) : Option ReadResult :=
  moments.findSome? fun
    | .completed completed result => if completed = id then some result else none
    | _ => none

/-- The future after the given moments have passed. -/
def settle (moments : List (Moment ν)) : Future → Future
  | waiting id => match resultIn moments id with
    | some result => settled id result
    | none => waiting id
  | future => future

/-- The parked read, or the read that was parked, that a future is responsible for. -/
def id? : Future → Option Nat
  | fresh _ => none
  | waiting id => some id
  | settled id _ => some id

end Future

/-- A device with the futures that read from it. A future that is gone keeps its place. -/
structure Session (ν : Type) where
  device : Device (Completion ν)
  futures : List (Option Future) := []

namespace Session

variable {ν : Type}

def dispatch (session : Session ν) (request : Request (Completion ν)) :
    Session ν × Reply × List (Moment ν) :=
  let (device, reply, moments) := session.device.dispatch request
  ({ device := device, futures := session.futures.map (·.map (·.settle moments)) },
    reply, moments)

def start (session : Session ν) (capacity : Nat) : Session ν × Nat :=
  ({ session with futures := session.futures ++ [some (.fresh capacity)] },
    session.futures.length)

def setFuture (session : Session ν) (index : Nat) (future : Option Future) : Session ν :=
  { session with futures := session.futures.set index future }

/-- Polls a future. One that yields its result is gone. -/
def poll (session : Session ν) (index : Nat) :
    Session ν × Option Poll × List (Moment ν) :=
  match session.futures[index]?.join with
  | none => (session, none, [])
  | some (.waiting _) => (session, some .waiting, [])
  | some (.settled _ result) => (session.setFuture index none, some (.ready result), [])
  | some (.fresh capacity) =>
      let (session, reply, moments) := session.dispatch (.read capacity fun _ => .done)
      match reply with
      | .ok (.pending id) =>
          (session.setFuture index (some (.waiting id)), some .waiting, moments)
      | .ok (.ready bytes) => (session.setFuture index none, some (.ready (.ok bytes)), moments)
      | .ok _ => (session, none, moments)
      | .error error => (session.setFuture index none, some (.ready (.error error)), moments)

/-- Drops a future. Tells whether it was still there. -/
def dropFuture (session : Session ν) (index : Nat) : Session ν × Bool × List (Moment ν) :=
  match session.futures[index]?.join with
  | none => (session, false, [])
  | some future =>
      let session := session.setFuture index none
      match future.id? with
      | none => (session, true, [])
      | some id =>
          let (session, _, moments) := session.dispatch (.cancel id)
          (session, true, moments)

/-- The end of a session: the futures are dropped, first to last, and then the device is
removed. -/
def close (session : Session ν) : List (Moment ν) :=
  let (session, moments) := (List.range session.futures.length).foldl
    (fun (session, moments) index =>
      let (session, _, later) := session.dropFuture index
      (session, moments ++ later))
    (session, [])
  moments ++ session.device.remove

end Session

end HidPointer
