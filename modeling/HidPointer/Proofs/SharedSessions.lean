import HidPointer.AsyncRead
import HidPointer.Proofs.Flattening
import HidPointer.Proofs.Reads

/-!
# Threads that share a session

The threads that issue requests also create, poll and drop futures, any of them at any point.
Polling takes one step: it serves a read at most, and a read makes nothing due. Who drops a future
that is responsible for a read has the cancellation of that read as the next thing to do. When a
completion is entered, its result is put down for the future that waits for it.

`Sharing` is all that threads can do with a session. A session that is used by one move after the
other is a case of it (`Sharing.of_moves`).
-/

set_option autoImplicit false

namespace HidPointer

variable {ν : Type}

namespace Future

theorem settle_of_uncompleted {moments : List (Moment ν)} {future : Future}
    (uncompleted : ∀ id, future.id? = some id → resultIn moments id = none) :
    future.settle moments = future := by
  cases future with
  | fresh | settled => rfl
  | waiting id => simp only [settle, uncompleted id rfl]

theorem id?_settle (moments : List (Moment ν)) (future : Future) :
    (future.settle moments).id? = future.id? := by
  cases future with
  | fresh | settled => rfl
  | waiting id => cases found : resultIn moments id <;> simp only [settle, found, id?]

theorem settle_append (earlier later : List (Moment ν)) (future : Future) :
    future.settle (earlier ++ later) = (future.settle earlier).settle later := by
  cases future with
  | fresh | settled => rfl
  | waiting id =>
      cases found : resultIn earlier id with
      | none =>
          have both : resultIn (earlier ++ later) id = resultIn later id := by
            unfold resultIn at found ⊢
            rw [List.findSome?_append, found, Option.none_or]
          simp only [settle, found, both]
      | some result =>
          have both : resultIn (earlier ++ later) id = some result := by
            unfold resultIn at found ⊢
            rw [List.findSome?_append, found, Option.some_or]
          simp only [settle, found, both]

end Future

/-- What happens in a session. A future is polled or dropped in the session as given. -/
inductive Happening (ν : Type) where
  | did (deed : Deed ν)
  | started (capacity : Nat)
  | polled (before : Session ν) (index : Nat)
  | dropped (before : Session ν) (index : Nat)

/-- What is done to the device. Only the first poll of a future asks for anything. -/
def Happening.deeds : Happening ν → List (Deed ν)
  | did deed => [deed]
  | polled before index => match before.futures[index]? with
    | some (some (.fresh capacity)) => [.served before.device (.read capacity inert)]
    | _ => []
  | started _ | dropped _ _ => []

def deeds (past : List (Happening ν)) : List (Deed ν) :=
  past.flatMap Happening.deeds

theorem deeds_append (past later : List (Happening ν)) :
    deeds (past ++ later) = deeds past ++ deeds later :=
  List.flatMap_append

theorem deeds_singleton (happening : Happening ν) : deeds [happening] = happening.deeds :=
  List.append_nil _

theorem deeds_did (past : List (Deed ν)) : deeds (past.map .did) = past := by
  induction past with
  | nil => rfl
  | cons deed past ih => exact congrArg (deed :: ·) ih

namespace Session

/-- The session when the device has become another and the moments have passed. -/
def passed (session : Session ν) (device : Device (Completion ν)) (moments : List (Moment ν)) :
    Session ν :=
  { device := device, futures := session.futures.map (·.map (·.settle moments)) }

theorem passed_of_unsettled {session : Session ν} {moments : List (Moment ν)}
    (unsettled : ∀ future, some future ∈ session.futures → future.settle moments = future)
    (device : Device (Completion ν)) :
    session.passed device moments = { session with device := device } := by
  have same : ∀ slot ∈ session.futures, slot.map (·.settle moments) = slot := by
    intro slot member
    cases slot with
    | none => rfl
    | some future => exact congrArg some (unsettled future member)
  rw [passed, List.map_congr_left same, List.map_id']

theorem passed_of_uncompleted {moments : List (Moment ν)}
    (uncompleted : ∀ id, Future.resultIn moments id = none) (session : Session ν)
    (device : Device (Completion ν)) :
    session.passed device moments = { session with device := device } :=
  passed_of_unsettled
    (fun _ _ => Future.settle_of_uncompleted fun id _ => uncompleted id) device

theorem passed_passed (session : Session ν) (first second : Device (Completion ν))
    (earlier later : List (Moment ν)) :
    (session.passed first earlier).passed second later =
      session.passed second (earlier ++ later) := by
  simp only [passed, List.map_map, Function.comp_def, Option.map_map, Future.settle_append]

theorem dispatch_of_quiet {session : Session ν} {request : Request (Completion ν)}
    (quiet : (session.device.serve request).2.duties = []) :
    session.dispatch request =
      ({ session with device := (session.device.serve request).1 },
        (session.device.serve request).2.reply,
        [.served (request.map fun _ => ()) (session.device.serve request).2.reply]) := by
  have silent : ∀ id, Future.resultIn
      [Moment.served (ν := ν) (request.map fun _ => ()) (session.device.serve request).2.reply] id =
        none := fun _ => rfl
  have unchanged := passed_of_uncompleted silent session (session.device.serve request).1
  simp only [dispatch, Device.dispatch, quiet, List.map_nil, Device.perform]
  exact congrArg (·, _, _) unchanged

theorem poll_of_unbuffered {session : Session ν} {index capacity : Nat}
    (found : session.futures[index]? = some (some (.fresh capacity)))
    (room : session.device.mode.byteLength ≤ capacity)
    (buffered : session.device.queue.buffered = []) :
    session.poll index =
      (⟨{ session.device with
          queue := session.device.queue.park ⟨session.device.nextId, capacity, inert⟩
          nextId := session.device.nextId + 1 },
        session.futures.set index (some (.waiting session.device.nextId))⟩, some .waiting,
        [.served (.read capacity ()) (.ok (.pending session.device.nextId))]) := by
  have served : session.device.serve (.read capacity inert) = _ :=
    (Device.Effect.parked room buffered).serve_eq
  have dispatched := dispatch_of_quiet (congrArg (·.2.duties) served)
  simp only [poll, found, Option.join_some]
  rw [show session.dispatch (.read capacity fun _ => .done) = _ from dispatched, served]
  simp only [ReportQueue.park, Device.queued, setFuture, buffered, Request.map]

/-- All that polling can do: the session after it, the answer, and what is done to the device. -/
inductive Polls (session : Session ν) (index : Nat) :
    Session ν → Option Poll → List (Deed ν) → Prop where
  | gone (absent : session.futures[index]?.join = none) : Polls session index session none []
  | waiting {id : Nat} (found : session.futures[index]? = some (some (.waiting id))) :
      Polls session index session (some .waiting) []
  | settled {id : Nat} {result : ReadResult}
      (found : session.futures[index]? = some (some (.settled id result))) :
      Polls session index (session.setFuture index none) (some (.ready result)) []
  | answered {capacity : Nat} {result : ReadResult}
      (found : session.futures[index]? = some (some (.fresh capacity))) :
      Polls session index
        ⟨(session.device.serve (.read capacity inert)).1, session.futures.set index none⟩
        (some (.ready result)) [.served session.device (.read capacity inert)]
  | parked {capacity : Nat} (found : session.futures[index]? = some (some (.fresh capacity)))
      (served : session.device.serve (.read capacity inert) =
        ({ session.device with
            queue := session.device.queue.park ⟨session.device.nextId, capacity, inert⟩
            nextId := session.device.nextId + 1 },
          { reply := .ok (.pending session.device.nextId) })) :
      Polls session index
        ⟨(session.device.serve (.read capacity inert)).1,
          session.futures.set index (some (.waiting session.device.nextId))⟩
        (some .waiting) [.served session.device (.read capacity inert)]

theorem polls (session : Session ν) (index : Nat) :
    Polls session index (session.poll index).1 (session.poll index).2.1
      (Happening.polled session index).deeds := by
  rcases found : session.futures[index]? with _ | _ | future
  · simp only [poll, found, Happening.deeds]
    exact .gone (by simp [found])
  · simp only [poll, found, Happening.deeds]
    exact .gone (by simp [found])
  · cases future with
    | waiting id =>
        simp only [poll, found, Happening.deeds]
        exact .waiting found
    | settled id result =>
        simp only [poll, found, Happening.deeds]
        exact .settled found
    | fresh capacity =>
        have quiet := (session.device.serve_effect (.read capacity inert)).read_exact.1
        have dispatched := dispatch_of_quiet quiet
        by_cases small : capacity < session.device.mode.byteLength
        · have served : session.device.serve (.read capacity inert) = _ :=
            (Device.Effect.noRoom small).serve_eq
          have step : Polls session index _ (some (.ready (.error
              (.bufferTooSmall session.device.mode.byteLength capacity)))) _ := .answered found
          simp only [poll, found, Option.join_some, Happening.deeds]
          rw [show session.dispatch (.read capacity fun _ => .done) = _ from dispatched]
          rw [served] at step ⊢
          exact step
        · have room : session.device.mode.byteLength ≤ capacity := Nat.not_lt.mp small
          rcases buffered : session.device.queue.buffered with _ | ⟨report, rest⟩
          · have served : session.device.serve (.read capacity inert) = _ :=
              (Device.Effect.parked room buffered).serve_eq
            have step := Polls.parked found (by
              rw [served, ReportQueue.park, Device.queued, ← buffered])
            rw [poll_of_unbuffered found room buffered, Happening.deeds, found]
            rw [served, Device.queued, ← buffered] at step
            exact step
          · have served : session.device.serve (.read capacity inert) = _ :=
              (Device.Effect.ready room buffered).serve_eq
            have step : Polls session index _ (some (.ready (.ok report))) _ := .answered found
            simp only [poll, found, Option.join_some, Happening.deeds]
            rw [show session.dispatch (.read capacity fun _ => .done) = _ from dispatched]
            rw [served] at step ⊢
            exact step

/-- What is left to do of a future that is dropped: to cancel the read it is responsible for. -/
def withdrawal (session : Session ν) (index : Nat) : List (Errand ν) :=
  match session.futures[index]?.join.bind Future.id? with
  | some id => [.act (.issue (.cancel id) (fun _ => .done) .done)]
  | none => []

theorem owed_withdrawal (session : Session ν) (index : Nat) :
    (session.withdrawal index).flatMap Errand.owed = [] := by
  unfold withdrawal
  split <;> rfl

/-- `Sharing start activities past session threads`: each thread began with one of the activities
and there was no future; `past` has happened, and the session is `session`. A thread is the list of
its errands. -/
inductive Sharing (start : Device (Completion ν)) (activities : List (Activity ν)) :
    List (Happening ν) → Session ν → List (List (Errand ν)) → Prop where
  | begin : Sharing start activities [] { device := start } (activities.map ([.act ·]))
  | step (front back : List (List (Errand ν))) {past : List (Happening ν)} {session : Session ν}
      {done : List (Deed ν)} {later : Device (Completion ν)} {errands remaining : List (Errand ν)} :
      Sharing start activities past session (front ++ errands :: back) →
      Step session.device errands done later remaining →
      Sharing start activities (past ++ done.map .did)
        (session.passed later (done.map Deed.moment)) (front ++ remaining :: back)
  | create (capacity : Nat) {past : List (Happening ν)} {session : Session ν}
      {threads : List (List (Errand ν))} :
      Sharing start activities past session threads →
      Sharing start activities (past ++ [.started capacity]) (session.start capacity).1 threads
  | poll (index : Nat) {past : List (Happening ν)} {session : Session ν}
      {threads : List (List (Errand ν))} :
      Sharing start activities past session threads →
      Sharing start activities (past ++ [.polled session index]) (session.poll index).1 threads
  | drop (index : Nat) (front back : List (List (Errand ν))) {past : List (Happening ν)}
      {session : Session ν} {errands : List (Errand ν)} :
      Sharing start activities past session (front ++ errands :: back) →
      Sharing start activities (past ++ [.dropped session index]) (session.setFuture index none)
        (front ++ (session.withdrawal index ++ errands) :: back)

namespace Sharing

variable {start : Device (Completion ν)} {activities : List (Activity ν)}
  {past : List (Happening ν)} {session : Session ν} {threads : List (List (Errand ν))}

/-- The device is what its requests have made of it. -/
theorem history (sharing : Sharing start activities past session threads) :
    History start (deeds past) session.device := by
  induction sharing with
  | begin => exact .begin
  | step _ _ _ step ih =>
      rw [deeds_append, deeds_did]
      exact step.history ih
  | create _ _ ih =>
      rw [deeds_append]
      simpa [deeds, Happening.deeds, Session.start] using ih
  | drop _ _ _ _ ih =>
      rw [deeds_append]
      simpa [deeds, Happening.deeds, setFuture] using ih
  | @poll index past session threads _ ih =>
      rw [deeds_append, deeds_singleton]
      have polls := session.polls index
      generalize (session.poll index).1 = after, (session.poll index).2.1 = answer,
        (Happening.polled session index).deeds = done at polls ⊢
      cases polls with
      | gone | waiting | settled => simpa [setFuture] using ih
      | answered | parked => exact ih.served _

/-- Whatever was made due has been done once or is still to be done by one of the threads. -/
theorem discharges (sharing : Sharing start activities past session threads) :
    ((deeds past).flatMap Deed.raised).Perm
      ((deeds past).flatMap Deed.discharged ++ threads.flatten.flatMap Errand.owed) := by
  induction sharing with
  | begin => exact .of_eq (Interleaving.owed_begin activities).symm
  | step front back _ step ih =>
      rw [deeds_append, deeds_did]
      exact step.discharges_among front back ih
  | create _ _ ih =>
      rw [deeds_append]
      simpa [deeds, Happening.deeds] using ih
  | drop index front back _ ih =>
      rw [deeds_append]
      simpa [deeds, Happening.deeds, owed_withdrawal] using ih
  | @poll index past session threads _ ih =>
      rw [deeds_append, deeds_singleton]
      have polls := session.polls index
      generalize (session.poll index).1 = after, (session.poll index).2.1 = answer,
        (Happening.polled session index).deeds = done at polls
      cases polls with
      | gone | waiting | settled => simpa using ih
      | @answered capacity | @parked capacity =>
          have quiet := (session.device.serve_effect (.read capacity inert)).read_exact.1
          simpa [Deed.raised, Deed.discharged, quiet] using ih

/-- The thread in the middle performs errands without others in between. -/
def Performs (start : Device (Completion ν)) (activities : List (Activity ν))
    (front back : List (List (Errand ν))) (past : List (Happening ν)) (session : Session ν)
    (device : Device (Completion ν)) (moments : List (Moment ν)) (rest : List (Errand ν)) : Prop :=
  ∃ done : List (Deed ν), moments = done.map Deed.moment ∧
    Sharing start activities (past ++ done.map .did) (session.passed device moments)
      (front ++ rest :: back)

private theorem performs_after {front back : List (List (Errand ν))}
    {errands remaining rest : List (Errand ν)} {first : List (Deed ν)}
    {later final : Device (Completion ν)} {moments : List (Moment ν)}
    (sharing : Sharing start activities past session (front ++ errands :: back))
    (step : Step session.device errands first later remaining)
    (performs : ∀ {past : List (Happening ν)} {session : Session ν}, session.device = later →
      Sharing start activities past session (front ++ remaining :: back) →
      Performs start activities front back past session final moments rest) :
    Performs start activities front back past session final (first.map Deed.moment ++ moments)
      rest := by
  obtain ⟨done, rfl, sharing⟩ := performs rfl (sharing.step front back step)
  refine ⟨first ++ done, (List.map_append ..).symm, ?_⟩
  rw [passed_passed, List.append_assoc, ← List.map_append] at sharing
  exact sharing

theorem performs {front back : List (List (Errand ν))} {errands rest : List (Errand ν)}
    (sharing : Sharing start activities past session (front ++ (errands ++ rest) :: back)) :
    Performs start activities front back past session (session.device.perform errands).1
      (session.device.perform errands).2 rest := by
  generalize same : session.device = device
  -- Along the recursion of `perform`: each of its steps is one step of the thread.
  induction device, errands using Device.perform.induct generalizing past session with
  | case1 device =>
      subst same
      refine ⟨[], by simp [Device.perform], ?_⟩
      rw [Device.perform, passed_of_uncompleted (fun _ => rfl)]
      simpa using sharing
  | case2 device errands ih =>
      subst same
      rw [Device.perform]
      exact performs_after sharing .leave fun same sharing => ih sharing same
  | case3 device entry next errands _ _ _ ih =>
      subst same
      rw [Device.perform]
      exact performs_after sharing .note fun same sharing => ih sharing same
  | case4 device request next gone errands =>
      rename_i ih
      subst same
      rw [Device.perform]
      refine performs_after sharing .serve fun same sharing => ih ?_ same
      simpa using sharing
  | case5 device read result errands _ _ _ ih =>
      subst same
      rw [Device.perform]
      exact performs_after sharing .enter fun same sharing => ih sharing same
  | case6 device event errands _ _ _ ih =>
      subst same
      rw [Device.perform]
      exact performs_after sharing .publish fun same sharing => ih sharing same

end Sharing

/-- What a single user does with a session. -/
inductive Move (ν : Type) where
  | create (capacity : Nat)
  | poll (index : Nat)
  | drop (index : Nat)
  | dispatch (request : Request (Completion ν))

def move (session : Session ν) : Move ν → Session ν
  | .create capacity => (session.start capacity).1
  | .poll index => (session.poll index).1
  | .drop index => (session.dropFuture index).1
  | .dispatch request => (session.dispatch request).1

/-- The requests among the moves. -/
def script : List (Move ν) → Activity ν
  | [] => .done
  | .dispatch request :: moves => .issue request (fun _ => script moves) .done
  | _ :: moves => script moves

theorem setFuture_of_gone {session : Session ν} {index : Nat}
    (gone : session.futures[index]?.join = none) : session.setFuture index none = session := by
  have same : session.futures.set index none = session.futures := by
    refine List.ext_getElem? fun other => ?_
    rw [List.getElem?_set]
    by_cases here : index = other
    · subst here
      rcases found : session.futures[index]? with _ | _ | future
      · simpa using found
      · have inside := (List.getElem?_eq_some_iff.mp found).1
        simp [inside]
      · simp [found] at gone
    · simp [here]
  rw [setFuture, same]

/-- Dropping a future by itself is dropping it and doing at once what is left to do of it. -/
theorem dropFuture_eq_passed (session : Session ν) (index : Nat) :
    (session.dropFuture index).1 =
      (session.setFuture index none).passed
        (session.device.perform (session.withdrawal index)).1
        (session.device.perform (session.withdrawal index)).2 := by
  cases found : session.futures[index]?.join with
  | none =>
      simp only [dropFuture, withdrawal, found, Option.bind_none, Device.perform,
        setFuture_of_gone found]
      exact (passed_of_uncompleted (fun _ => rfl) session session.device).symm
  | some future =>
      cases responsible : future.id? with
      | none =>
          simp only [dropFuture, withdrawal, found, Option.bind_some, responsible, Device.perform]
          exact (passed_of_uncompleted (fun _ => rfl) (session.setFuture index none) _).symm
      | some id =>
          simp only [dropFuture, withdrawal, found, Option.bind_some, responsible, dispatch,
            Device.dispatch_eq_perform]
          rfl

/-- Moves that are made one after the other are a case of sharing. -/
theorem Sharing.of_moves (start : Device (Completion ν)) (moves : List (Move ν)) :
    ∃ past, Sharing start [script moves] past (moves.foldl move { device := start })
      [[.act .done]] := by
  suffices ∀ {activity : Activity ν} {past : List (Happening ν)} {session : Session ν},
      Sharing start [activity] past session [[.act (script moves)]] →
      ∃ past, Sharing start [activity] past (moves.foldl move session) [[.act .done]] from
    this .begin
  intro activity past session sharing
  induction moves generalizing past session with
  | nil => exact ⟨past, sharing⟩
  | cons move moves ih =>
      cases move with
      | create capacity => exact ih (sharing.create capacity)
      | poll index => exact ih (sharing.poll index)
      | drop index =>
          obtain ⟨_, _, performed⟩ := (sharing.drop index [] []).performs
          exact ih ((dropFuture_eq_passed session index).symm ▸ performed)
      | dispatch request =>
          obtain ⟨_, _, performed⟩ := (sharing.step [] [] .serve).performs
          rw [passed_passed] at performed
          exact ih performed

end Session
end HidPointer
