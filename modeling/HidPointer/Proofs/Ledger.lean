import HidPointer.Proofs.Effect
import HidPointer.Proofs.Interleaving

/-!
# The ledger of accepted reports

A receipt for every accepted report, in the order of acceptance, with what became of the report.
The ledger is kept from the answers alone: it knows which request was answered in which way, and
that the buffer gives out its reports from the front. Whether it tells the truth about buffer,
readers and counters is a matter of proof (`Run.reports_accounted`).
-/

set_option autoImplicit false

namespace HidPointer

/-- What became of an accepted report. A point of a run is a position in the list of its deeds: here
that of the read that returned the report, or of the switch that discarded it. -/
inductive Fate where
  | waiting
  | returned (position : Nat)
  | delivered (id : Nat)
  | displaced
  | discarded (position : Nat)
  deriving DecidableEq

structure Receipt where
  position : Nat
  bytes : Bytes
  fate : Fate := .waiting

namespace Receipt

def entry (receipt : Receipt) : Nat × Bytes :=
  (receipt.position, receipt.bytes)

def settle (fate : Fate) (receipt : Receipt) : Receipt :=
  { receipt with fate := fate }

def waiting? : Receipt → Option Bytes
  | ⟨_, bytes, .waiting⟩ => some bytes
  | _ => none

def returned? : Receipt → Option (Nat × Bytes)
  | ⟨_, bytes, .returned position⟩ => some (position, bytes)
  | _ => none

def delivered? : Receipt → Option (Nat × Bytes)
  | ⟨_, bytes, .delivered id⟩ => some (id, bytes)
  | _ => none

def displaced? : Receipt → Option Bytes
  | ⟨_, bytes, .displaced⟩ => some bytes
  | _ => none

def discarded? : Receipt → Option Nat
  | ⟨_, _, .discarded position⟩ => some position
  | _ => none

def settleFirst (fate : Fate) : List Receipt → List Receipt
  | [] => []
  | receipt :: receipts =>
      if receipt.fate = .waiting then receipt.settle fate :: receipts
      else receipt :: settleFirst fate receipts

def settleLast (fate : Fate) (receipts : List Receipt) : List Receipt :=
  (settleFirst fate receipts.reverse).reverse

def settleAll (fate : Fate) (receipts : List Receipt) : List Receipt :=
  receipts.map fun receipt => if receipt.fate = .waiting then receipt.settle fate else receipt

end Receipt

def Request.content {κ : Type} : Request κ → Bytes
  | .submit report => match report.encode with
    | .ok bytes => bytes
    | .error _ => []
  | .submitRaw _ bytes => bytes
  | _ => []

/-- The bytes that were accepted with a request, judged by the answer. -/
def Request.accepted? {κ : Type} (request : Request κ) : Reply → Option Bytes
  | .ok (.accepted _) => some request.content
  | _ => none

def Device.book {κ : Type} (before : Device κ) (position : Nat) (request : Request κ)
    (reply : Reply) (receipts : List Receipt) : List Receipt :=
  match reply with
  | .ok (.accepted (.delivered id)) => receipts ++ [⟨position, request.content, .delivered id⟩]
  | .ok (.accepted .buffered) => receipts ++ [⟨position, request.content, .waiting⟩]
  | .ok (.accepted .bufferedWithDrop) =>
      match before.queue.policy.overflow with
      | .latestWins =>
          Receipt.settleLast .displaced receipts ++ [⟨position, request.content, .waiting⟩]
      | _ => Receipt.settleFirst .displaced receipts ++ [⟨position, request.content, .waiting⟩]
  | .ok (.accepted .dropped) => receipts ++ [⟨position, request.content, .displaced⟩]
  | .ok (.ready _) => Receipt.settleFirst (.returned position) receipts
  | .ok (.modeSet _) => Receipt.settleAll (.discarded position) receipts
  | _ => receipts

def Deed.book {ν : Type} (position : Nat) (receipts : List Receipt) : Deed ν → List Receipt
  | .served before request => before.book position request (before.serve request).2.reply receipts
  | _ => receipts

def ledger {ν : Type} (past : List (Deed ν)) : List Receipt :=
  (past.zipIdx).foldl (fun receipts (deed, position) => deed.book position receipts) []

theorem ledger_append {ν : Type} (past : List (Deed ν)) (deed : Deed ν) :
    ledger (past ++ [deed]) = deed.book past.length (ledger past) := by
  simp [ledger, List.zipIdx_append]

/-- An accepted report has one fate. -/
theorem length_eq_fates (receipts : List Receipt) :
    receipts.length =
      (receipts.filterMap Receipt.waiting?).length +
        ((receipts.filterMap Receipt.returned?).length +
          (receipts.filterMap Receipt.delivered?).length) +
        (receipts.filterMap Receipt.displaced?).length +
        (receipts.filterMap Receipt.discarded?).length := by
  induction receipts with
  | nil => rfl
  | cons receipt receipts ih =>
      obtain ⟨position, bytes, fate⟩ := receipt
      cases fate <;>
        simp only [List.filterMap_cons, Receipt.waiting?, Receipt.returned?, Receipt.delivered?,
          Receipt.displaced?, Receipt.discarded?, List.length_cons, ih] <;>
        omega

theorem Receipt.views_of_waiting {receipt : Receipt} (waits : receipt.fate = .waiting) :
    receipt.returned? = none ∧ receipt.delivered? = none ∧ receipt.displaced? = none ∧
      receipt.discarded? = none := by
  obtain ⟨position, bytes, fate⟩ := receipt
  cases waits
  exact ⟨rfl, rfl, rfl, rfl⟩

/-- The ledger `after` shows what `before` does and what `shown` does. Reports that wait are not
looked at. -/
structure Shows (before after shown : List Receipt) : Prop where
  returned : (after.filterMap Receipt.returned?).Perm
    (before.filterMap Receipt.returned? ++ shown.filterMap Receipt.returned?)
  delivered : (after.filterMap Receipt.delivered?).Perm
    (before.filterMap Receipt.delivered? ++ shown.filterMap Receipt.delivered?)
  displaced : (after.filterMap Receipt.displaced?).Perm
    (before.filterMap Receipt.displaced? ++ shown.filterMap Receipt.displaced?)
  discarded : (after.filterMap Receipt.discarded?).Perm
    (before.filterMap Receipt.discarded? ++ shown.filterMap Receipt.discarded?)

namespace Shows

theorem refl (receipts : List Receipt) : Shows receipts receipts [] := by
  constructor <;> simp

theorem append {before after shown : List Receipt} (shows : Shows before after shown)
    (new : Receipt) : Shows before (after ++ [new]) (shown ++ [new]) := by
  constructor <;> rw [List.filterMap_append, List.filterMap_append, ← List.append_assoc]
  · exact shows.returned.append_right _
  · exact shows.delivered.append_right _
  · exact shows.displaced.append_right _
  · exact shows.discarded.append_right _

end Shows

/-- The ledger `after` comes from `before` by settling the reports `moved`, which waited. -/
structure Settled (fate : Fate) (before after moved : List Receipt) : Prop where
  waited : ∀ receipt ∈ moved, receipt.fate = .waiting
  exchanged : ∃ kept, before.Perm (kept ++ moved) ∧ after.Perm (kept ++ moved.map (·.settle fate))

namespace Settled

variable {fate : Fate} {before after moved : List Receipt}

/-- A view of the ledger that passes over waiting reports gains what it shows of the settled. -/
private theorem view {α : Type} {view : Receipt → Option α}
    (settled : Settled fate before after moved)
    (passes : ∀ receipt, receipt.fate = .waiting → view receipt = none) :
    (after.filterMap view).Perm
      (before.filterMap view ++ (moved.map (·.settle fate)).filterMap view) := by
  obtain ⟨kept, wasPerm, isPerm⟩ := settled.exchanged
  have hidden : moved.filterMap view = [] := by
    rw [List.filterMap_eq_nil_iff]
    exact fun receipt member => passes receipt (settled.waited receipt member)
  have unchanged := wasPerm.filterMap view
  rw [List.filterMap_append, hidden, List.append_nil] at unchanged
  have changed := isPerm.filterMap view
  rw [List.filterMap_append] at changed
  exact changed.trans (unchanged.symm.append_right _)

theorem shows (settled : Settled fate before after moved) :
    Shows before after (moved.map (·.settle fate)) where
  returned := settled.view fun _ waits => (Receipt.views_of_waiting waits).1
  delivered := settled.view fun _ waits => (Receipt.views_of_waiting waits).2.1
  displaced := settled.view fun _ waits => (Receipt.views_of_waiting waits).2.2.1
  discarded := settled.view fun _ waits => (Receipt.views_of_waiting waits).2.2.2

theorem reverse (settled : Settled fate before.reverse after moved) :
    Settled fate before after.reverse moved where
  waited := settled.waited
  exchanged := by
    obtain ⟨kept, wasPerm, isPerm⟩ := settled.exchanged
    exact ⟨kept, (List.reverse_perm before).symm.trans wasPerm,
      (List.reverse_perm after).trans isPerm⟩

end Settled

namespace Receipt

variable {fate : Fate} {receipts : List Receipt}

theorem waiting?_of_waiting {receipt : Receipt} (waits : receipt.fate = .waiting) :
    receipt.waiting? = some receipt.bytes := by
  obtain ⟨position, bytes, fate⟩ := receipt
  cases waits
  rfl

theorem waiting?_eq_none {receipt : Receipt} (settled : receipt.fate ≠ .waiting) :
    receipt.waiting? = none := by
  obtain ⟨position, bytes, fate⟩ := receipt
  cases fate with
  | waiting => exact absurd rfl settled
  | returned | delivered | displaced | discarded => rfl

theorem settleFirst_settled (fate : Fate) {first : Bytes} {rest : List Bytes}
    (waiting : receipts.filterMap waiting? = first :: rest) :
    ∃ receipt, receipt.bytes = first ∧
      Settled fate receipts (settleFirst fate receipts) [receipt] := by
  induction receipts with
  | nil => cases waiting
  | cons receipt receipts ih =>
      unfold settleFirst
      by_cases waits : receipt.fate = .waiting
      · rw [List.filterMap_cons_some (waiting?_of_waiting waits)] at waiting
        cases waiting
        rw [if_pos waits]
        refine ⟨receipt, rfl, by simpa using waits, receipts, ?_, ?_⟩
        · exact (List.perm_append_singleton receipt receipts).symm
        · exact (List.perm_append_singleton (receipt.settle fate) receipts).symm
      · rw [List.filterMap_cons_none (waiting?_eq_none waits)] at waiting
        rw [if_neg waits]
        obtain ⟨found, bytes, waited, kept, wasPerm, isPerm⟩ := ih waiting
        exact ⟨found, bytes, waited, receipt :: kept, wasPerm.cons _, isPerm.cons _⟩

theorem settleLast_settled (fate : Fate) {last : Bytes} {rest : List Bytes}
    (waiting : receipts.filterMap waiting? = rest ++ [last]) :
    ∃ receipt, receipt.bytes = last ∧
      Settled fate receipts (settleLast fate receipts) [receipt] := by
  have backwards : receipts.reverse.filterMap waiting? = last :: rest.reverse := by
    rw [List.filterMap_reverse, waiting]
    simp
  obtain ⟨receipt, bytes, settled⟩ := settleFirst_settled fate backwards
  exact ⟨receipt, bytes, settled.reverse⟩

theorem settleAll_settled (fate : Fate) (receipts : List Receipt) :
    ∃ moved, moved.map (·.bytes) = receipts.filterMap waiting? ∧
      Settled fate receipts (settleAll fate receipts) moved := by
  induction receipts with
  | nil => exact ⟨[], rfl, by simp, [], .nil, .nil⟩
  | cons receipt receipts ih =>
      obtain ⟨moved, bytes, waited, kept, wasPerm, isPerm⟩ := ih
      unfold settleAll at isPerm ⊢
      rw [List.map_cons]
      by_cases waits : receipt.fate = .waiting
      · rw [if_pos waits, List.filterMap_cons_some (waiting?_of_waiting waits)]
        refine ⟨receipt :: moved, by simp [bytes], by simpa [waits] using waited, kept, ?_, ?_⟩
        · exact (wasPerm.cons receipt).trans List.perm_middle.symm
        · exact (isPerm.cons (receipt.settle fate)).trans List.perm_middle.symm
      · rw [if_neg waits, List.filterMap_cons_none (waiting?_eq_none waits)]
        exact ⟨moved, bytes, waited, receipt :: kept, wasPerm.cons _, isPerm.cons _⟩

theorem entries_settleFirst (fate : Fate) (receipts : List Receipt) :
    (settleFirst fate receipts).map entry = receipts.map entry := by
  induction receipts with
  | nil => rfl
  | cons receipt receipts ih =>
      unfold settleFirst
      split
      · rfl
      · rw [List.map_cons, ih, List.map_cons]

theorem entries_settleLast (fate : Fate) (receipts : List Receipt) :
    (settleLast fate receipts).map entry = receipts.map entry := by
  rw [settleLast, List.map_reverse, entries_settleFirst, List.map_reverse, List.reverse_reverse]

theorem entries_settleAll (fate : Fate) (receipts : List Receipt) :
    (settleAll fate receipts).map entry = receipts.map entry := by
  rw [settleAll, List.map_map]
  congr 1
  funext receipt
  simp only [Function.comp_apply]
  split <;> rfl

theorem waiting_settleFirst (settles : fate ≠ .waiting) (receipts : List Receipt) :
    (settleFirst fate receipts).filterMap waiting? = (receipts.filterMap waiting?).drop 1 := by
  induction receipts with
  | nil => rfl
  | cons receipt receipts ih =>
      unfold settleFirst
      by_cases waits : receipt.fate = .waiting
      · have gone : (receipt.settle fate).waiting? = none := waiting?_eq_none settles
        rw [if_pos waits, List.filterMap_cons_none gone,
          List.filterMap_cons_some (waiting?_of_waiting waits)]
        rfl
      · have passed : receipt.waiting? = none := waiting?_eq_none waits
        rw [if_neg waits, List.filterMap_cons_none passed, List.filterMap_cons_none passed, ih]

theorem waiting_settleLast (settles : fate ≠ .waiting) (receipts : List Receipt) :
    (settleLast fate receipts).filterMap waiting? = (receipts.filterMap waiting?).dropLast := by
  unfold settleLast
  rw [List.filterMap_reverse, waiting_settleFirst settles, List.filterMap_reverse, List.drop_one,
    List.tail_reverse, List.reverse_reverse]

theorem waiting_settleAll (settles : fate ≠ .waiting) (receipts : List Receipt) :
    (settleAll fate receipts).filterMap waiting? = [] := by
  simp only [settleAll, List.filterMap_eq_nil_iff, List.forall_mem_map]
  intro receipt _
  split
  · exact waiting?_eq_none settles
  · next waits => exact waiting?_eq_none waits

theorem mem_settleFirst {receipt : Receipt} (member : receipt ∈ settleFirst fate receipts) :
    receipt ∈ receipts ∨ receipt.fate = fate := by
  induction receipts with
  | nil => cases member
  | cons head receipts ih =>
      unfold settleFirst at member
      split at member
      · rcases List.mem_cons.mp member with rfl | later
        · exact .inr rfl
        · exact .inl (List.mem_cons_of_mem _ later)
      · rcases List.mem_cons.mp member with rfl | later
        · exact .inl List.mem_cons_self
        · exact (ih later).imp_left (List.mem_cons_of_mem _)

theorem mem_settleLast {receipt : Receipt} (member : receipt ∈ settleLast fate receipts) :
    receipt ∈ receipts ∨ receipt.fate = fate := by
  simpa using mem_settleFirst (List.mem_reverse.mp member)

end Receipt

theorem Request.Submits.content_eq {κ : Type} {request : Request κ} {mode : Mode} {bytes : Bytes}
    (submits : request.Submits mode bytes) : request.content = bytes := by
  cases submits with
  | typed encoded => simp [Request.content, encoded]
  | raw => rfl

/-- Entries are added and never changed. -/
theorem Device.entries_book {κ : Type} (device : Device κ) (position : Nat) (request : Request κ)
    (reply : Reply) (receipts : List Receipt) :
    (device.book position request reply receipts).map Receipt.entry =
      receipts.map Receipt.entry ++ ((request.accepted? reply).map (position, ·)).toList := by
  cases reply with
  | error => exact (List.append_nil _).symm
  | ok response =>
      cases response with
      | accepted status =>
          cases status with
          | delivered | buffered | dropped => exact List.map_append
          | bufferedWithDrop =>
              simp only [book]
              split
              · rw [List.map_append, Receipt.entries_settleLast]
                rfl
              · rw [List.map_append, Receipt.entries_settleFirst]
                rfl
      | ready =>
          refine (Receipt.entries_settleFirst _ receipts).trans ?_
          exact (List.append_nil _).symm
      | modeSet =>
          refine (Receipt.entries_settleAll _ receipts).trans ?_
          exact (List.append_nil _).symm
      | attributes | classDescriptor | reportDescriptor | mode | pending | canceled | counters =>
          exact (List.append_nil _).symm

/-- A step that does to the buffer what the ledger says keeps the two in agreement. -/
theorem Device.Effect.book_waiting {κ : Type} {device after : Device κ} {request : Request κ}
    {served : Served κ} (effect : Effect device request after served) {receipts : List Receipt}
    (position : Nat) (waiting : receipts.filterMap Receipt.waiting? = device.queue.buffered) :
    (device.book position request served.reply receipts).filterMap Receipt.waiting? =
      after.queue.buffered := by
  cases effect with
  | told tells => cases tells <;> exact waiting
  | noSuchMode | unknownTag | unencodable | invalid | noRoom | notParked | canceled =>
      exact waiting
  | parked _ buffered => exact waiting.trans buffered
  | delivered | tooSmall | dropped =>
      simpa [book, List.filterMap_cons, Receipt.waiting?] using waiting
  | buffered accepts _ _ =>
      simp [book, Receipt.waiting?, waiting, accepts.submits.content_eq]
  | switched =>
      exact Receipt.waiting_settleAll (nofun : Fate.discarded position ≠ .waiting) receipts
  | ready _ buffered =>
      have settles : Fate.returned position ≠ .waiting := nofun
      have remain := Receipt.waiting_settleFirst settles receipts
      rw [waiting, buffered] at remain
      exact remain
  | displaced accepts _ _ displaces =>
      have settles : Fate.displaced ≠ .waiting := nofun
      simp only [book, queued_queue]
      cases overflow : device.queue.policy.overflow with
      | dropNewest => exact absurd overflow displaces
      | latestWins =>
          rw [List.filterMap_append, Receipt.waiting_settleLast settles, waiting,
            accepts.submits.content_eq]
          rfl
      | dropOldest =>
          rw [List.filterMap_append, Receipt.waiting_settleFirst settles, waiting,
            accepts.submits.content_eq]
          rfl

/-- What waits according to the ledger waited before and was not discarded, or it has just been
accepted. -/
theorem Device.mem_book_of_waiting {κ : Type} {before : Device κ} {position : Nat}
    {request : Request κ} {reply : Reply} {receipts : List Receipt} {receipt : Receipt}
    (member : receipt ∈ before.book position request reply receipts)
    (waits : receipt.fate = .waiting) :
    (receipt ∈ receipts ∧ ∀ transition, reply ≠ .ok (.modeSet transition)) ∨
      (receipt.position = position ∧ request.accepted? reply = some receipt.bytes) := by
  have waited : ∀ {fate : Fate}, receipt ∈ receipts ∨ receipt.fate = fate → fate ≠ .waiting →
      receipt ∈ receipts := by
    intro fate origin settles
    rcases origin with old | changed
    · exact old
    · exact absurd (changed.symm.trans waits) settles
  unfold book at member
  split at member
  · rcases List.mem_append.mp member with old | new
    · exact .inl ⟨old, nofun⟩
    · cases List.mem_singleton.mp new
      cases waits
  · rcases List.mem_append.mp member with old | new
    · exact .inl ⟨old, nofun⟩
    · cases List.mem_singleton.mp new
      exact .inr ⟨rfl, rfl⟩
  · split at member
    · rcases List.mem_append.mp member with old | new
      · exact .inl ⟨waited (Receipt.mem_settleLast old) nofun, nofun⟩
      · cases List.mem_singleton.mp new
        exact .inr ⟨rfl, rfl⟩
    · rcases List.mem_append.mp member with old | new
      · exact .inl ⟨waited (Receipt.mem_settleFirst old) nofun, nofun⟩
      · cases List.mem_singleton.mp new
        exact .inr ⟨rfl, rfl⟩
  · rcases List.mem_append.mp member with old | new
    · exact .inl ⟨old, nofun⟩
    · cases List.mem_singleton.mp new
      cases waits
  · exact .inl ⟨waited (Receipt.mem_settleFirst member) nofun, nofun⟩
  · obtain ⟨old, _, rfl⟩ := List.mem_map.mp member
    split at waits
    · cases waits
    · next settled => exact absurd waits settled
  · next noSwitch => exact .inl ⟨member, noSwitch⟩

theorem Run.ledger_waiting {ν : Type} {start now : Device (Completion ν)} {activity : Activity ν}
    {past : List (Deed ν)} {errands : List (Errand ν)}
    (run : Run start activity past now errands) (empty : start.queue.buffered = []) :
    (ledger past).filterMap Receipt.waiting? = now.queue.buffered := by
  induction run using Run.byStep with
  | begin => exact empty.symm
  | leave _ ih => exact ih
  | note _ ih | enter _ ih | publish _ ih =>
      rw [ledger_append]
      exact ih
  | @serve past now request next gone errands _ ih =>
      rw [ledger_append]
      exact (now.serve_effect request).book_waiting past.length ih

end HidPointer
