import HidPointer.Device
import HidPointer.Replacement

/-!
# Activities

What happens around a device over time. An activity issues requests, one after the other, and may
choose each by the answers to the earlier ones. The completion of a read is an activity that
depends on the result, so requests can be issued from inside completions to any finite depth.

`Device.perform` runs what is due, innermost first: the duties of a request come before whatever
its issuer does next. It ends because each step replaces an activity by smaller ones.
-/

set_option autoImplicit false

namespace HidPointer

/-- A course of action. `ν` is what it can note down on its way. -/
inductive Activity (ν : Type) where
  | done
  | note (entry : ν) (next : Activity ν)
  /-- Issues a request and goes on with the answer. Where the device no longer exists, nothing is
  issued and `gone` is what happens. -/
  | issue (request : Request (ReadResult → Activity ν)) (next : Reply → Activity ν)
      (gone : Activity ν)

abbrev Completion (ν : Type) := ReadResult → Activity ν

/-- What can be observed of a run, in the order in which it happens. -/
inductive Moment (ν : Type) where
  /-- The device took a request and determined the answer. -/
  | served (request : Request Unit) (reply : Reply)
  | completed (id : Nat) (result : ReadResult)
  | published (event : Event)
  | noted (entry : ν)

inductive Errand (ν : Type) where
  | act (activity : Activity ν)
  | duty (duty : Duty (Completion ν))

namespace Activity

variable {ν : Type}

instance : Inhabited (Activity ν) := ⟨.done⟩

/-- Notes some entries and goes on. -/
def notes (entries : List ν) (next : Activity ν) : Activity ν :=
  entries.foldr .note next

/-- What an activity notes when the device no longer exists. -/
def withoutDevice : Activity ν → List ν
  | .done => []
  | .note entry next => entry :: next.withoutDevice
  | .issue _ _ gone => gone.withoutDevice

/-- What counts for the length of a run: activities, completions, and events to publish. -/
inductive Work (ν : Type) where
  | activity (activity : Activity ν)
  | completion (completion : Completion ν)
  | event

/-- What a piece of work can lead to directly. -/
inductive Work.Below : Work ν → Work ν → Prop where
  | noted {entry : ν} {next : Activity ν} :
      Below (.activity next) (.activity (.note entry next))
  | answered {request : Request (Completion ν)} {next : Reply → Activity ν} {gone : Activity ν}
      (reply : Reply) : Below (.activity (next reply)) (.activity (.issue request next gone))
  | parked {capacity : Nat} {completion : Completion ν} {next : Reply → Activity ν}
      {gone : Activity ν} :
      Below (.completion completion) (.activity (.issue (.read capacity completion) next gone))
  | published {request : Request (Completion ν)} {next : Reply → Activity ν}
      {gone : Activity ν} : Below .event (.activity (.issue request next gone))
  | entered {completion : Completion ν} (result : ReadResult) :
      Below (.activity (completion result)) (.completion completion)

private theorem acc_event : Acc Work.Below (.event : Work ν) :=
  .intro _ fun _ below => nomatch below

private theorem acc_completion {completion : Completion ν}
    (each : ∀ result, Acc Work.Below (.activity (completion result))) :
    Acc Work.Below (.completion completion) := by
  refine .intro _ fun work below => ?_
  cases below with
  | entered result => exact each result

private theorem acc_activity (activity : Activity ν) :
    Acc Work.Below (.activity activity) := by
  refine @Activity.rec ν
    (fun activity => Acc Work.Below (.activity activity))
    (fun request => ∀ capacity completion,
      request = .read capacity completion → Acc Work.Below (.completion completion))
    ?done ?note ?issue ?attributes ?classDescriptor ?reportDescriptor ?mode ?setMode ?submit
    ?submitRaw ?read ?cancel ?counters activity
  case done => exact .intro _ fun _ below => nomatch below
  case note =>
    intro _ _ nextIH
    refine .intro _ fun work below => ?_
    cases below with
    | noted => exact nextIH
  case issue =>
    intro _ _ _ requestIH nextIH _
    refine .intro _ fun work below => ?_
    cases below with
    | answered reply => exact nextIH reply
    | parked => exact requestIH _ _ rfl
    | published => exact acc_event
  case read =>
    intro _ _ completionIH _ _ same
    cases same
    exact acc_completion completionIH
  all_goals intros; contradiction

theorem Work.below_wellFounded : WellFounded (Work.Below (ν := ν)) := by
  refine ⟨fun work => ?_⟩
  cases work with
  | activity activity => exact acc_activity activity
  | completion completion => exact acc_completion fun result => acc_activity _
  | event => exact acc_event

end Activity

end HidPointer
