import Herald.Proofs.Registry.Step

/-!
# What a step leaves alone

A step is the business of the topmost frame. The frames below stay as they are, and the dispatches
among them neither begin, go on nor end in it (`Step.above`): a dispatch does so only when it is on
top itself.
-/

namespace Herald.Registry

variable {α : Type}

/-! ## Levels -/

@[simp] theorem level_append (upper frames : List (Frame α)) :
    level (upper ++ frames) = level upper + level frames :=
  List.countP_append

@[simp] theorem level_dispatch (dispatch : Dispatch α) (frames : List (Frame α)) :
    level (.dispatch dispatch :: frames) = level frames + 1 :=
  List.countP_cons_of_pos rfl

@[simp] theorem level_script (observer : α) (source : StateId) (rest : Script α)
    (frames : List (Frame α)) : level (.script observer source rest :: frames) = level frames :=
  List.countP_cons_of_neg Bool.false_ne_true

theorem Code.level_advance {frame : Frame α} {source : Option StateId} {script : Script α}
    (code : Code frame source script) (frames : List (Frame α)) :
    level (frame.advance :: frames) = level frames := by
  cases code <;> exact List.countP_cons_of_neg Bool.false_ne_true

/-- The beginning of an action changes no level. -/
theorem level_modifyHead_advance (frames : List (Frame α)) :
    level (frames.modifyHead Frame.advance) = level frames := by
  cases frames with
  | nil => rfl
  | cons frame frames => cases frame <;> rfl

/-- The level of the dispatch that begins, goes on or ends in an event. -/
def Event.level? : Event α → Option Nat
  | .dispatching level _ _ _ _ | .notified level _ _ _ _ _ | .skipped level _ _
  | .ended level _ _ => some level
  | _ => none

/-- None of the events is a step of a dispatch of the level. -/
def Quiet (level : Nat) (events : List (Event α)) : Prop :=
  ∀ event ∈ events, event.level? ≠ some level

/-! ## Steps -/

variable [DecidableEq α]

/-- An action leaves the stack below it alone, and the dispatch that it may begin is a deeper
one. -/
theorem Performs.above {world : World α} {source : Option StateId} {frames : List (Frame α)}
    {action : Action α} {events : List (Event α)} {next : Config α}
    (performs : Performs world source frames action events next) :
    (∃ pushed, next.frames = pushed ++ frames) ∧
      ∀ event ∈ events, ∀ other, event.level? = some other → level frames < other := by
  cases performs with
  | accept => exact ⟨⟨[_], rfl⟩, by simp [Event.level?]⟩
  | unchanged | edit => exact ⟨⟨[], rfl⟩, by simp [Event.level?]⟩
  | answer | enqueue | fail | nowhere | arrived | untold =>
      exact ⟨⟨[], rfl⟩, List.forall_mem_nil _⟩

/-- A step leaves the stack below its topmost frame alone, and the dispatches there as well. -/
theorem Step.above {world : World α} {frame : Frame α} {below : List (Frame α)} {signal : Signal}
    {events : List (Event α)} {next : Config α}
    (step : Step ⟨world, frame :: below, signal⟩ events next) :
    (∃ pushed, next.frames = pushed ++ below) ∧
      ∀ event ∈ events, ∀ other, event.level? = some other → level below < other := by
  cases step with
  | perform code performs =>
      obtain ⟨⟨pushed, frames⟩, deeper⟩ := performs.above
      rw [code.level_advance] at deeper
      exact ⟨⟨pushed ++ [frame.advance], by simpa using frames⟩, deeper⟩
  | told =>
      refine ⟨⟨[_], rfl⟩, fun event mem other about => ?_⟩
      rw [mem_value_events mem] at about
      cases about
  | stepsDone | scriptDone | scriptFault => exact ⟨⟨[], rfl⟩, by simp [Event.level?]⟩
  | stepEnd | stepFault => exact ⟨⟨[_], rfl⟩, by simp [Event.level?]⟩
  | finish | abort => exact ⟨⟨[], rfl⟩, by simp [Event.level?]⟩
  | skip => exact ⟨⟨[_], rfl⟩, by simp [Event.level?]⟩
  | notify => exact ⟨⟨[_, _], rfl⟩, by simp [Event.level?]⟩

/-- What happens in a step is no step of a dispatch that is below the topmost frame. -/
theorem Step.quiet {world : World α} {frame : Frame α} {below : List (Frame α)} {signal : Signal}
    {events : List (Event α)} {next : Config α} {depth : Nat}
    (step : Step ⟨world, frame :: below, signal⟩ events next) (deep : depth ≤ level below) :
    Quiet depth events := by
  intro event mem about
  have deeper := step.above.2 event mem depth about
  omega

end Herald.Registry
