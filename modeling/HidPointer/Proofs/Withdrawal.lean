import HidPointer.Proofs.Course

/-!
# A canceled read leaves no trace

A read that is parked and then canceled might as well not have been issued. Compare a run with what
it is without that read and the cancellations that name it: everybody else gets the same answers and
the same reports at the same point (`canceled_read_leaves_no_trace`). As the read takes no number in
the shortened run, the numbers above its own are less by one there, and `opening` is the way back.

From the read on the two devices stay beside each other: the longer run has the read in its place
among the parked ones, until it is canceled, and is otherwise the same. That place is never at the
head of the queue when a report comes in, for the read would get the report and could not be
canceled any more.
-/

set_option autoImplicit false

namespace HidPointer

/-- The numbers without the gap. -/
def closing (gap : Nat) : Renumbering where
  id id := if gap < id then id - 1 else id
  epoch epoch := epoch
  counters counters := counters

/-- The numbers with a gap among them, and so many cancellations more. -/
def opening (gap canceled : Nat) : Renumbering where
  id id := if gap ≤ id then id + 1 else id
  epoch epoch := epoch
  counters counters := counters.add { canceled := canceled }

section Gap

variable {gap canceled id : Nat}

theorem opening_ne : (opening gap canceled).id id ≠ gap := by
  simp only [opening]
  split <;> omega

theorem opening_of_lt (below : id < gap) : (opening gap canceled).id id = id :=
  if_neg (Nat.not_le.mpr below)

theorem opening_self : (opening gap canceled).id gap = gap + 1 :=
  if_pos (Nat.le_refl gap)

theorem opening_closing (other : id ≠ gap) :
    (opening gap canceled).id ((closing gap).id id) = id := by
  simp only [opening, closing]
  split <;> split <;> omega

theorem opening_steady : (opening gap canceled).Steady gap where
  id_inj := by
    intro one other same
    simp only [opening] at same
    split at same <;> split at same <;> omega
  id_succ := by
    intro id above
    simp only [opening, if_pos above, if_pos (Nat.le_succ_of_le above)]
  epoch_succ _ := rfl
  counters_add counters more := counters.add_right_comm more _

end Gap

variable {ν : Type}

theorem ParkedRead.renumber_opening {κ : Type} {read : ParkedRead κ} {gap canceled : Nat}
    (below : read.id < gap) : read.renumber (opening gap canceled) = read := by
  simp only [renumber, opening_of_lt below]

def Request.cancels (gap : Nat) : Request Unit → Bool
  | .cancel id => id == gap
  | _ => false

theorem Request.eq_of_cancels {gap : Nat} {request : Request Unit}
    (names : request.cancels gap = true) : request = .cancel gap := by
  cases request with
  | cancel id => exact congrArg Request.cancel (eq_of_beq names)
  | _ => cases names

/-- The requests without those to cancel the read, and the read numbers in them without the gap. -/
def shortened (gap : Nat) (requests : List (Request Unit)) : List (Request Unit) :=
  (requests.filter (!·.cancels gap)).map (·.renumber (closing gap))

section Shortened

variable {gap : Nat} {request : Request Unit} {requests : List (Request Unit)}

theorem shortened_append (gap : Nat) (earlier later : List (Request Unit)) :
    shortened gap (earlier ++ later) = shortened gap earlier ++ shortened gap later := by
  rw [shortened, List.filter_append, List.map_append, shortened, shortened]

theorem shortened_cancel (gap : Nat) (requests : List (Request Unit)) :
    shortened gap (.cancel gap :: requests) = shortened gap requests := by
  simp [shortened, Request.cancels]

theorem shortened_cons (other : request.cancels gap = false) :
    shortened gap (request :: requests) =
      request.renumber (closing gap) :: shortened gap requests := by
  simp [shortened, other]

end Shortened

def Moment.tellsOf (gap : Nat) : Moment ν → Bool
  | .served (.cancel id) _ => id == gap
  | .served (.read _ _) (.ok (.pending id)) => id == gap
  | .completed id _ => id == gap
  | .published (.readCanceled id) => id == gap
  | _ => false

/-- What is left when all that tells of the read is deleted. -/
def untold (gap : Nat) (moments : List (Moment ν)) : List (Moment ν) :=
  moments.filter (!·.tellsOf gap)

theorem untold_append (gap : Nat) (earlier later : List (Moment ν)) :
    untold gap (earlier ++ later) = untold gap earlier ++ untold gap later :=
  List.filter_append ..

theorem untold_cancel (gap : Nat) (reply : Reply) (moments : List (Moment ν)) :
    untold gap (.served (.cancel gap) reply :: moments) = untold gap moments := by
  simp [untold, Moment.tellsOf]

theorem untold_opened (gap canceled : Nat) (moments : List (Moment ν)) :
    untold gap (moments.map (·.renumber (opening gap canceled))) =
      moments.map (·.renumber (opening gap canceled)) := by
  refine List.filter_eq_self.mpr ?_
  intro moment member
  obtain ⟨original, _, rfl⟩ := List.mem_map.mp member
  rw [Bool.not_eq_true']
  cases original with
  | served request reply =>
      cases request with
      | cancel id => exact beq_false_of_ne opening_ne
      | read capacity =>
          cases reply with
          | error => rfl
          | ok response =>
              cases response with
              | pending id => exact beq_false_of_ne opening_ne
              | _ => rfl
      | _ => rfl
  | completed id => exact beq_false_of_ne opening_ne
  | published event =>
      cases event with
      | readCanceled id => exact beq_false_of_ne opening_ne
      | _ => rfl
  | noted => rfl

theorem Request.opening_closing {gap : Nat} {request : Request Unit}
    (other : request.cancels gap = false) (canceled : Nat) :
    (request.renumber (closing gap)).renumber (opening gap canceled) = request := by
  cases request with
  | cancel id => exact congrArg Request.cancel (HidPointer.opening_closing (ne_of_beq_false other))
  | _ => rfl

namespace Device

section Without

variable {κ : Type}

/-- The device without the parked read of that number. -/
def without (gap : Nat) (device : Device κ) : Device κ :=
  { device with
    queue := { device.queue with parked := device.queue.parked.filter (·.id != gap) } }

def Parks (gap : Nat) (device : Device κ) : Prop :=
  ∃ read ∈ device.queue.parked, read.id = gap

variable {gap : Nat} {device after : Device κ} {request : Request κ} {served : Served κ}

@[simp] theorem without_parked (device : Device κ) :
    (device.without gap).queue.parked = device.queue.parked.filter (·.id != gap) := rfl

private theorem filter_eq_self {reads : List (ParkedRead κ)}
    (others : ∀ read ∈ reads, read.id ≠ gap) : reads.filter (·.id != gap) = reads :=
  List.filter_eq_self.mpr fun read member => bne_iff_ne.mpr (others read member)

theorem parks_of_append {front back : List (ParkedRead κ)} {read : ParkedRead κ}
    (parked : device.queue.parked = front ++ read :: back) : device.Parks read.id := by
  refine ⟨read, ?_, rfl⟩
  rw [parked]
  exact List.mem_append_right front List.mem_cons_self

theorem without_eq_self (absent : ¬ device.Parks gap) : device.without gap = device := by
  have others : ∀ read ∈ device.queue.parked, read.id ≠ gap :=
    fun read member same => absent ⟨read, member, same⟩
  rw [without, filter_eq_self others]

theorem Tells.without {response : Response} (tells : device.Tells request response) (gap : Nat) :
    (device.without gap).Tells request response := by
  cases tells with
  | attributes => exact .attributes
  | classDescriptor => exact .classDescriptor
  | reportDescriptor => exact .reportDescriptor
  | mode => exact .mode
  | counters => exact .counters

/-- A read that was parked and no longer is will never be parked again. -/
theorem Effect.parks_of_parks (effect : Effect device request after served)
    (issued : gap < device.nextId) (parks : after.Parks gap) : device.Parks gap := by
  obtain ⟨read, member, same⟩ := parks
  cases effect with
  | told | noSuchMode | unknownTag | unencodable | invalid | noRoom | ready | notParked =>
      exact ⟨read, member, same⟩
  | switched | buffered | displaced | dropped => cases member
  | delivered _ parked _ | tooSmall _ parked _ =>
      exact ⟨read, by rw [parked]; exact List.mem_cons_of_mem _ member, same⟩
  | parked =>
      rcases List.mem_append.mp member with earlier | new
      · exact ⟨read, earlier, same⟩
      · rw [List.mem_singleton.mp new] at same
        exact absurd same (Nat.ne_of_gt issued)
  | @canceled front back gone parked _ =>
      have remains : (front ++ back).Sublist (front ++ gone :: back) :=
        (List.sublist_cons_self gone back).append_left front
      exact ⟨read, by rw [parked]; exact remains.subset member, same⟩

/-- A read that is not answered at once is the last of the parked ones. -/
theorem Effect.parked_of_pending (effect : Effect device request after served)
    (pending : served.reply = .ok (.pending gap)) :
    device.nextId = gap ∧ served.duties = [] ∧
      ∃ capacity completion, after =
        { device.queued device.queue.buffered
            (device.queue.parked ++ [⟨gap, capacity, completion⟩]) device.queue.counters with
          nextId := gap + 1 } := by
  cases effect with
  | told tells => cases tells <;> cases pending
  | @parked capacity completion _ buffered =>
      cases pending
      refine ⟨rfl, rfl, capacity, completion, ?_⟩
      rw [buffered]
  | _ => cases pending

theorem Accepts.without {bytes : Bytes} (accepts : device.Accepts request bytes) (gap : Nat) :
    (device.without gap).Accepts request bytes :=
  ⟨accepts.submits, accepts.length⟩

/-- As long as the read stays parked, a device does without it what it does with it. -/
theorem Effect.without (effect : Effect device request after served) (coherent : device.Coherent)
    (issued : gap < device.nextId) (other : ∀ id, request = .cancel id → id ≠ gap)
    (stays : device.Parks gap → after.Parks gap) :
    Effect (device.without gap) request (after.without gap) served := by
  have none_parked (parked : device.queue.parked = []) :
      (device.without gap).queue.parked = [] := by
    rw [without_parked, parked, List.filter_nil]
  have first_parked {read : ParkedRead κ} {rest : List (ParkedRead κ)}
      (parked : device.queue.parked = read :: rest) (left : after.queue.parked = rest) :
      (device.without gap).queue.parked = read :: rest.filter (·.id != gap) := by
    have differs : read.id ≠ gap := by
      intro same
      obtain ⟨behind, member, again⟩ := stays ⟨read, by rw [parked]; exact List.mem_cons_self, same⟩
      have ordered := coherent.ordered
      rw [left] at member
      rw [parked, List.pairwise_cons] at ordered
      exact Nat.ne_of_lt (ordered.1 behind member) (same.trans again.symm)
    rw [without_parked, parked]
    simp [differs]
  cases effect with
  | told tells => exact .told (tells.without gap)
  | noSuchMode unknown => exact .noSuchMode unknown
  | switched known =>
      have absent : ¬ device.Parks gap := by
        intro parks
        obtain ⟨read, member, _⟩ := stays parks
        cases member
      rw [without_eq_self absent]
      exact .switched known
  | unknownTag unknown => exact .unknownTag unknown
  | unencodable refused => exact .unencodable refused
  | invalid submits refused => exact .invalid submits refused
  | delivered accepts parked room =>
      exact .delivered (accepts.without gap) (first_parked parked rfl) room
  | tooSmall accepts parked small =>
      exact .tooSmall (accepts.without gap) (first_parked parked rfl) small
  | buffered accepts parked room =>
      exact .buffered (accepts.without gap) (none_parked parked) room
  | displaced accepts parked full displaces =>
      exact .displaced (accepts.without gap) (none_parked parked) full displaces
  | dropped accepts parked full drops =>
      exact .dropped (accepts.without gap) (none_parked parked) full drops
  | noRoom small => exact .noRoom small
  | ready room buffered => exact .ready room buffered
  | @parked capacity completion room buffered =>
      have effect : Effect (device.without gap) (.read capacity completion) _ _ :=
        .parked room buffered
      refine effect.of_eq ?_
      simp only [Device.without, queued, List.filter_append, List.filter_cons, List.filter_nil,
        bne_iff_ne.mpr (Nat.ne_of_gt issued), if_true]
  | notParked absent =>
      exact .notParked fun read member => absent read (List.mem_filter.mp member).1
  | @canceled front back read parked first =>
      have differs : read.id ≠ gap := other read.id rfl
      have place : (device.without gap).queue.parked =
          front.filter (·.id != gap) ++ read :: back.filter (·.id != gap) := by
        rw [without_parked, parked]
        simp [differs]
      have effect := Effect.canceled place
        fun other member => first other (List.mem_filter.mp member).1
      rw [← List.filter_append] at effect
      exact effect

end Without

section Cancel

variable {gap : Nat} {device : Device (Completion ν)} {requests : List (Request Unit)}

theorem parks_of_course (muted : device.muted = device) (issued : gap < device.nextId)
    (parks : (device.course requests).1.Parks gap) : device.Parks gap := by
  refine Classical.byContradiction fun absent => ?_
  refine (course_invariant (fun device => ¬ device.Parks gap ∧ gap < device.nextId) ?_ muted
    ⟨absent, issued⟩).1.1 parks
  rintro device request ⟨absent, issued⟩
  have effect := device.serve_effect (request.map fun _ => inert)
  exact ⟨fun parks => absent (effect.parks_of_parks issued parks),
    Nat.lt_of_lt_of_le issued effect.nextId_le⟩

/-- What a cancellation does: nothing, or it takes a read out of its place. -/
theorem next_cancel (device : Device (Completion ν)) (id : Nat) :
    (¬ device.Parks id ∧ device.next (.cancel id) = device ∧
        device.turn (.cancel id) = [.served (.cancel id) (.ok (.canceled false))]) ∨
      ∃ front back read, device.queue.parked = front ++ read :: back ∧ read.id = id ∧
        device.next (.cancel id) = device.queued device.queue.buffered (front ++ back)
          { device.queue.counters with canceled := device.queue.counters.canceled + 1 } ∧
        device.turn (.cancel id) = [.served (.cancel id) (.ok (.canceled true)),
          .completed id (.error .canceled), .published (.readCanceled id)] := by
  cases found : device.queue.parked.find? (·.id == id) with
  | none =>
      have absent : ∀ read ∈ device.queue.parked, read.id ≠ id := by simpa using found
      have served := (Effect.notParked absent).serve_eq
      refine .inl ⟨?_, congrArg Prod.fst served, ?_⟩
      · rintro ⟨read, member, same⟩
        exact absent read member same
      · simp only [turn, Request.map, served]
        rfl
  | some read =>
      obtain ⟨same, front, back, parked, earlier⟩ := List.find?_eq_some_iff_append.mp found
      obtain rfl : read.id = id := by simpa using same
      have served := (Effect.canceled parked (by simpa using earlier)).serve_eq
      refine .inr ⟨front, back, read, parked, rfl, congrArg Prod.fst served, ?_⟩
      simp only [turn, Request.map, served]
      rfl

theorem parks_of_withdrawn
    (withdrawn : (device.dispatch (.cancel gap)).2.1 = .ok (.canceled true)) :
    device.Parks gap := by
  have reply : (device.serve (.cancel gap)).2.reply = .ok (.canceled true) := withdrawn
  rcases device.next_cancel gap with ⟨_, _, same⟩ | ⟨front, back, read, parked, rfl, _⟩
  · simp [turn, Request.map, reply] at same
  · exact parks_of_append parked

theorem untold_course_cancel (muted : device.muted = device) (absent : ¬ device.Parks gap)
    (requests : List (Request Unit)) :
    (device.course (.cancel gap :: requests)).1 = (device.course requests).1 ∧
      untold gap (device.course (.cancel gap :: requests)).2 =
        untold gap (device.course requests).2 := by
  rw [course_cons muted]
  rcases device.next_cancel gap with ⟨_, next, turn⟩ | ⟨front, back, read, parked, rfl, _⟩
  · rw [next, turn, List.singleton_append, untold_cancel]
    exact ⟨rfl, rfl⟩
  · exact absurd (parks_of_append parked) absent

/-- A read that was canceled is not parked. -/
theorem not_parks_next_cancel (coherent : device.Coherent) (id : Nat) :
    ¬ (device.next (.cancel id)).Parks id := by
  rcases device.next_cancel id with ⟨absent, stays, _⟩ | ⟨front, back, read, parked, rfl, next, _⟩
  · rw [stays]
    exact absent
  · rw [next]
    rintro ⟨other, member, same⟩
    have ordered := coherent.ordered
    rw [parked, List.pairwise_append, List.pairwise_cons] at ordered
    obtain ⟨_, ⟨ahead, _⟩, across⟩ := ordered
    rcases List.mem_append.mp member with before | behind
    · exact Nat.ne_of_lt (across other before read List.mem_cons_self) same
    · exact Nat.ne_of_gt (ahead other behind) same

end Cancel

section Before

variable {gap : Nat} {device : Device (Completion ν)} {request : Request Unit}
  {requests : List (Request Unit)}

theorem not_parks_of_le (coherent : device.Coherent) {id : Nat} (above : device.nextId ≤ id) :
    ¬ device.Parks id := by
  rintro ⟨read, member, rfl⟩
  exact Nat.not_lt.mpr above (coherent.below read member)

/-- As long as the number of the read has not been given out, no answer has a number that must give
way. -/
theorem Effect.served_opened {κ : Type} {device after : Device κ} {request : Request κ}
    {served : Served κ} (effect : Effect device request after served)
    (coherent : device.Coherent) (fresh : after.nextId ≤ gap) :
    served.renumber (opening gap 0) = served := by
  have fixed {read : ParkedRead κ} (member : read ∈ device.queue.parked) :
      read.renumber (opening gap 0) = read :=
    ParkedRead.renumber_opening (Nat.lt_of_lt_of_le (coherent.below read member)
      (Nat.le_trans effect.nextId_le fresh))
  have fixedId {read : ParkedRead κ} (member : read ∈ device.queue.parked) :
      (opening gap 0).id read.id = read.id := congrArg ParkedRead.id (fixed member)
  cases effect with
  | told tells => cases tells <;> rfl
  | noSuchMode | unknownTag | unencodable | invalid | buffered | displaced | dropped | noRoom
  | ready | notParked => rfl
  | switched =>
      have flushed : (device.queue.parked.map (Duty.complete · (.error .reconfigured))).map
          (·.renumber (opening gap 0)) =
            device.queue.parked.map (Duty.complete · (.error .reconfigured)) := by
        rw [List.map_map]
        refine List.map_congr_left fun read member => ?_
        exact congrArg (Duty.complete · _) (fixed member)
      simp only [Served.renumber, List.map_append, flushed]
      rfl
  | delivered _ parked _ | tooSmall _ parked _ =>
      have first := List.mem_of_mem_head? (congrArg List.head? parked)
      simp only [Served.renumber, Reply.renumber, Response.renumber, SubmitStatus.renumber,
        List.map_cons, List.map_nil, Duty.renumber, Event.renumber, fixed first, fixedId first]
  | parked =>
      simp only [Served.renumber, Reply.renumber, Response.renumber, List.map_nil,
        opening_of_lt (Nat.lt_of_succ_le fresh)]
  | @canceled front back read parked _ =>
      have member : read ∈ device.queue.parked := by
        rw [parked]
        exact List.mem_append_right front List.mem_cons_self
      simp only [Served.renumber, Reply.renumber, Response.renumber, List.map_cons, List.map_nil,
        Duty.renumber, Event.renumber, fixed member, fixedId member]

/-- Before the number of the read has been given out, a request that names a later one names none
that is parked. -/
theorem serve_closing (coherent : device.Coherent) (fresh : device.nextId ≤ gap)
    (other : request.cancels gap = false) :
    device.serve ((request.renumber (closing gap)).map fun _ => inert) =
      device.serve (request.map fun _ => inert) := by
  cases request with
  | cancel id =>
      have differs : id ≠ gap := ne_of_beq_false other
      by_cases above : gap < id
      · have absent : ∀ named, gap ≤ named → ∀ read ∈ device.queue.parked, read.id ≠ named :=
          fun named behind read member same =>
            not_parks_of_le coherent (Nat.le_trans fresh behind) ⟨read, member, same⟩
        have lower : gap ≤ id - 1 := by omega
        simp only [Request.renumber, Request.map, closing, if_pos above]
        rw [(Effect.notParked (absent id (Nat.le_of_lt above))).serve_eq,
          (Effect.notParked (absent (id - 1) lower)).serve_eq]
      · simp only [Request.renumber, closing, if_neg above]
  | _ => rfl

/-- Up to the read both runs are the same. -/
theorem course_before (muted : device.muted = device) (coherent : device.Coherent)
    (fresh : (device.course requests).1.nextId ≤ gap) :
    (device.course (shortened gap requests)).1 = (device.course requests).1 ∧
      untold gap (device.course requests).2 =
        (device.course (shortened gap requests)).2.map (·.renumber (opening gap 0)) := by
  induction requests generalizing device with
  | nil => exact ⟨rfl, rfl⟩
  | cons request requests ih =>
      have effect := device.serve_effect (request.map fun _ => inert)
      have nowFresh : device.nextId ≤ gap := Nat.le_trans (nextId_le_course muted _) fresh
      cases names : request.cancels gap with
      | true =>
          obtain rfl := Request.eq_of_cancels names
          obtain ⟨same, moments⟩ :=
            untold_course_cancel muted (not_parks_of_le coherent nowFresh) requests
          rw [shortened_cancel, same, moments]
          rw [same] at fresh
          exact ih muted coherent fresh
      | false =>
          rw [course_cons muted] at fresh ⊢
          have nextFresh : (device.next request).nextId ≤ gap :=
            Nat.le_trans (nextId_le_course (next_muted muted request) requests) fresh
          have same := serve_closing coherent nowFresh names
          have next : device.next (request.renumber (closing gap)) = device.next request :=
            congrArg Prod.fst same
          have turns := turn_renumber (Request.opening_closing names 0) <| by
            rw [same, effect.served_opened coherent nextFresh]
          obtain ⟨final, later⟩ :=
            ih (next_muted muted request) (effect.coherent coherent) fresh
          rw [shortened_cons names, course_cons muted, next]
          refine ⟨final, ?_⟩
          rw [untold_append, later, turns, untold_opened, List.map_append]

end Before

section Beside

variable {gap canceled : Nat} {device short long : Device (Completion ν)}
  {request : Request Unit} {requests : List (Request Unit)}

/-- The longer run has the read, and is otherwise where the shorter one is. -/
structure Beside (gap canceled : Nat) (short long : Device (Completion ν)) : Prop where
  same : long.without gap = short.renumber (opening gap canceled)
  issued : gap ≤ short.nextId
  coherent : long.Coherent
  shortMuted : short.muted = short
  longMuted : long.muted = long

theorem Beside.issued_long (beside : Beside gap canceled short long) : gap < long.nextId := by
  have nextId : long.nextId = (opening gap canceled).id short.nextId :=
    congrArg Device.nextId beside.same
  rw [nextId]
  simp only [opening, if_pos beside.issued]
  exact Nat.lt_succ_of_le beside.issued

theorem Beside.step (beside : Beside gap canceled short long)
    (other : request.cancels gap = false)
    (stays : long.Parks gap → (long.next request).Parks gap) :
    Beside gap canceled (short.next (request.renumber (closing gap))) (long.next request) ∧
      long.turn request = (short.turn (request.renumber (closing gap))).map
        (·.renumber (opening gap canceled)) := by
  have opened := Request.opening_closing other canceled
  have named : ∀ id, (request.map fun _ => (inert : Completion ν)) = .cancel id → id ≠ gap := by
    intro id isCancel
    cases request with
    | cancel => cases isCancel; exact ne_of_beq_false other
    | _ => cases isCancel
  have effect := long.serve_effect (request.map fun _ => inert)
  have served := (effect.without beside.coherent beside.issued_long named stays).serve_eq
  rw [beside.same, ← opened, Request.map_renumber,
    serve_renumber (opening_steady.mono beside.issued), ← Request.map_renumber, opened] at served
  obtain ⟨after, served⟩ := Prod.mk.inj served
  refine ⟨⟨after.symm, ?_, effect.coherent beside.coherent, next_muted beside.shortMuted _,
    next_muted beside.longMuted _⟩, turn_renumber opened served.symm⟩
  exact Nat.le_trans beside.issued (short.serve_effect _).nextId_le

/-- As long as the read is parked in the longer run, or if it is not any more, the two runs stay
beside each other. -/
theorem Beside.course (beside : Beside gap canceled short long) (requests : List (Request Unit))
    (stays : long.Parks gap → (long.course requests).1.Parks gap) :
    Beside gap canceled (short.course (shortened gap requests)).1 (long.course requests).1 ∧
      untold gap (long.course requests).2 =
        (short.course (shortened gap requests)).2.map (·.renumber (opening gap canceled)) := by
  induction requests generalizing short long with
  | nil => exact ⟨beside, rfl⟩
  | cons request requests ih =>
      have lasts (request : Request Unit) :
          ((long.next request).course requests).1.Parks gap → (long.next request).Parks gap :=
        parks_of_course (next_muted beside.longMuted _)
          (Nat.lt_of_lt_of_le beside.issued_long (long.serve_effect _).nextId_le)
      cases names : request.cancels gap with
      | true =>
          obtain rfl := Request.eq_of_cancels names
          -- A read that is canceled here would not be parked in the end.
          have absent : ¬ long.Parks gap := by
            intro parks
            have final := stays parks
            rw [course_cons beside.longMuted] at final
            exact not_parks_next_cancel beside.coherent gap (lasts _ final)
          obtain ⟨same, moments⟩ := untold_course_cancel beside.longMuted absent requests
          rw [shortened_cancel, same, moments]
          exact ih beside fun parks => absurd parks absent
      | false =>
          rw [course_cons beside.longMuted] at stays ⊢
          obtain ⟨after, turns⟩ := beside.step names fun parks => lasts _ (stays parks)
          obtain ⟨final, later⟩ := ih after fun parks =>
            stays ((long.serve_effect _).parks_of_parks beside.issued_long parks)
          rw [shortened_cons names, course_cons beside.shortMuted]
          refine ⟨final, ?_⟩
          rw [untold_append, later, turns, untold_opened, List.map_append]

/-- The runs part when the read is parked. -/
theorem beside_of_pending (muted : device.muted = device) (coherent : device.Coherent)
    {capacity : Nat}
    (pending : (device.dispatch (.read capacity inert)).2.1 = .ok (.pending gap)) :
    device.nextId = gap ∧ Beside gap 0 device (device.next (.read capacity ())) ∧
      untold gap (device.turn (.read capacity ())) = [] := by
  have effect := device.serve_effect (.read capacity inert)
  obtain ⟨rfl, noDuties, parkedCapacity, completion, after⟩ := effect.parked_of_pending pending
  have earlier : device.queue.parked.filter (·.id != device.nextId) = device.queue.parked :=
    filter_eq_self fun read member => Nat.ne_of_lt (coherent.below read member)
  have fixed : device.queue.parked.map (·.renumber (opening device.nextId 0)) =
      device.queue.parked := by
    refine (List.map_congr_left fun read member => ?_).trans (List.map_id' _)
    exact ParkedRead.renumber_opening (coherent.below read member)
  have last : [(⟨device.nextId, parkedCapacity, completion⟩ : ParkedRead (Completion ν))].filter
      (·.id != device.nextId) = [] := by simp
  refine ⟨rfl, ⟨?_, Nat.le_refl _, effect.coherent coherent, muted, next_muted muted _⟩, ?_⟩
  · rw [next, Request.map, after]
    simp only [without, queued, List.filter_append, earlier, last, List.append_nil,
      Device.renumber, fixed, opening_self]
    rfl
  · simp only [turn, Request.map, noDuties, List.map_nil]
    rw [show (device.serve (.read capacity inert)).2.reply = _ from pending]
    simp [untold, Moment.tellsOf]

/-- They are one again when it is canceled. -/
theorem Beside.withdrawn (beside : Beside gap 0 short long) (parks : long.Parks gap) :
    Beside gap 1 short (long.next (.cancel gap)) ∧ untold gap (long.turn (.cancel gap)) = [] := by
  have gone := not_parks_next_cancel beside.coherent gap
  have coherent := (long.serve_effect (.cancel gap)).coherent beside.coherent
  have muted := next_muted beside.longMuted (.cancel gap)
  rcases long.next_cancel gap with ⟨absent, _⟩ | ⟨front, back, read, parked, same, next, turn⟩
  · exact absurd parks absent
  · refine ⟨⟨?_, beside.issued, coherent, beside.shortMuted, muted⟩, ?_⟩
    · rw [without_eq_self gone]
      rw [next] at gone ⊢
      have others : ∀ other ∈ front ++ back, other.id ≠ gap :=
        fun other member same => gone ⟨other, member, same⟩
      have left : (long.without gap).queue.parked = front ++ back := by
        rw [without_parked, parked, List.filter_append, List.filter_cons_of_neg (by simp [same]),
          ← List.filter_append, filter_eq_self others]
      have counted := congrArg (fun device : Device (Completion ν) =>
        device.queued device.queue.buffered device.queue.parked { device.queue.counters with
          canceled := device.queue.counters.canceled + 1 }) beside.same
      rw [left] at counted
      exact counted
    · rw [turn, untold_cancel]
      simp [untold, Moment.tellsOf]

end Beside

/-- A canceled read leaves no trace. Both runs are observed in two parts, up to the cancellation and
from there on, because only then the counts of canceled reads differ. -/
theorem canceled_read_leaves_no_trace {attributes : Attributes} {initialMode : Mode}
    {policies : Policies} {earlier middle later : List (Request Unit)} {capacity gap : Nat} :
    let start : Device (Completion ν) := create attributes initialMode policies
    let before := start.course (earlier ++ .read capacity () :: middle)
    let after := before.1.course (.cancel gap :: later)
    let shortBefore := start.course (shortened gap (earlier ++ middle))
    let shortAfter := shortBefore.1.course (shortened gap later)
    ((start.course earlier).1.dispatch (.read capacity inert)).2.1 = .ok (.pending gap) →
      (before.1.dispatch (.cancel gap)).2.1 = .ok (.canceled true) →
        untold gap before.2 = shortBefore.2.map (·.renumber (opening gap 0)) ∧
          untold gap after.2 = shortAfter.2.map (·.renumber (opening gap 1)) ∧
            after.1 = shortAfter.1.renumber (opening gap 1) := by
  intro start before after shortBefore shortAfter pending withdrawn
  have muted : start.muted = start := rfl
  have coherent : start.Coherent := coherent_create ..
  have readMuted := course_muted muted earlier
  have long : before = _ := start.course_append earlier (.read capacity () :: middle)
  have short : shortBefore = _ := congrArg start.course (shortened_append gap earlier middle)
  rw [course_cons readMuted] at long
  rw [course_append] at short
  -- Up to the read there is only one run.
  obtain ⟨issued, beside, read_untold⟩ :=
    beside_of_pending readMuted (course_coherent muted coherent earlier) pending
  obtain ⟨same, earlierMoments⟩ := course_before muted coherent (Nat.le_of_eq issued)
  rw [same] at short
  -- While the read is parked the runs are beside each other.
  have parks : before.1.Parks gap := parks_of_withdrawn withdrawn
  obtain ⟨beside, middleMoments⟩ := beside.course middle fun _ => by
    rw [long] at parks
    exact parks
  have runs : Beside gap 0 shortBefore.1 before.1 := by
    rw [long, short]
    exact beside
  -- After the cancellation they are the same again.
  obtain ⟨joined, cancel_untold⟩ := runs.withdrawn parks
  have gone := not_parks_next_cancel runs.coherent gap
  obtain ⟨final, laterMoments⟩ := joined.course later fun parks => absurd parks gone
  have whole : after = _ := course_cons runs.longMuted (.cancel gap) later
  refine ⟨?_, ?_, ?_⟩
  · rw [long, short, untold_append, untold_append, read_untold, earlierMoments, middleMoments,
      List.nil_append, List.map_append]
  · rw [whole, untold_append, cancel_untold, laterMoments, List.nil_append]
  · have absent : ¬ after.1.Parks gap := by
      rw [whole]
      exact fun parks => gone (parks_of_course joined.longMuted joined.issued_long parks)
    rw [← without_eq_self absent, whole]
    exact final.same

/-- Three reads are parked. The second is canceled when the first has got a report and before the
third gets one. -/
theorem canceled_read_leaves_no_trace_second_of_three :
    let start : Device (Completion Unit) := create DeviceConfig.default.attributes .mouse .default
    let earlier : List (Request Unit) := [.read 3 ()]
    let middle : List (Request Unit) := [.read 3 (), .submitRaw 0 [1, 5, 5], .cancel 9]
    let later : List (Request Unit) := [.submitRaw 0 [0, 5, 5], .counters]
    let before := start.course (earlier ++ .read 8 () :: middle)
    let after := before.1.course (.cancel 2 :: later)
    let shortBefore := start.course (shortened 2 (earlier ++ middle))
    let shortAfter := shortBefore.1.course (shortened 2 later)
    ((start.course earlier).1.dispatch (.read 8 inert)).2.1 = .ok (.pending 2) ∧
      (before.1.dispatch (.cancel 2)).2.1 = .ok (.canceled true) ∧
      before.1.queue.parked.map (·.id) = [2, 3] ∧
      shortBefore.1.queue.parked.map (·.id) = [2] ∧
      untold 2 before.2 = shortBefore.2.map (·.renumber (opening 2 0)) ∧
      untold 2 after.2 = shortAfter.2.map (·.renumber (opening 2 1)) ∧
      after.1 = shortAfter.1.renumber (opening 2 1) := by
  intro start earlier middle later before after shortBefore shortAfter
  have first : (start.course earlier).1 = earlier.foldl next start := course_fst rfl _
  have second : before.1 = (earlier ++ .read 8 () :: middle).foldl next start := course_fst rfl _
  have shortened : shortBefore.1 = (shortened 2 (earlier ++ middle)).foldl next start :=
    course_fst rfl _
  have pending : ((start.course earlier).1.dispatch (.read 8 inert)).2.1 = .ok (.pending 2) := by
    rw [first]
    rfl
  have withdrawn : (before.1.dispatch (.cancel 2)).2.1 = .ok (.canceled true) := by
    rw [second]
    rfl
  refine ⟨pending, withdrawn, ?_, ?_, canceled_read_leaves_no_trace pending withdrawn⟩
  · rw [second]
    rfl
  · rw [shortened]
    rfl

end Device

end HidPointer
