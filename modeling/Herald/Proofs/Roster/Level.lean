import Herald.Proofs.Roster.Stack
import Herald.Proofs.Roster.Traversal

/-!
# What a step leaves alone

A step is the business of the topmost frame and of what that pushes. The frames below stay as they
are (`Step.above`), and what happens in the step is not about the walks among them
(`Step.level_of_mem`), with one exception: a visit that ends is a matter of the walk on which it
stands.
-/

namespace Herald.Roster

variable {α : Type}

/-! ## Levels -/

theorem level_append (upper frames : List (Frame α)) :
    level (upper ++ frames) = level upper + level frames :=
  List.countP_append

@[simp] theorem level_walk (walk : Walk α) (frames : List (Frame α)) :
    level (.walk walk :: frames) = level frames + 1 :=
  List.countP_cons_of_pos rfl

@[simp] theorem level_script (scope : List α) (rest : Script α) (frames : List (Frame α)) :
    level (.script scope rest :: frames) = level frames :=
  List.countP_cons_of_neg Bool.false_ne_true

/-- As many walks are on stacks that have them in the same places. -/
theorem level_congr {frames others : List (Frame α)}
    (same : List.Forall₂ (fun frame other : Frame α => other.isWalk = frame.isWalk) frames others) :
    level others = level frames := by
  induction same with
  | nil => rfl
  | cons top _ ih =>
      simp only [level, List.countP_cons, top] at ih ⊢
      rw [ih]

/-- A visit returns to the walk below it. -/
theorem returnEvents_visit (handle : α) (scope : List α) (walk : Walk α) (frames : List (Frame α))
    (stop : Option Stop) :
    returnEvents (handle :: scope) (.walk walk :: frames) stop =
      [.returned (level frames + 1) handle stop] := by
  rw [returnEvents, level_walk]
  rfl

theorem Code.level_cons {frame : Frame α} {scope : List α} {script : Script α}
    (code : Code frame scope script) (frames : List (Frame α)) :
    level (frame :: frames) = level frames := by
  cases code <;> exact List.countP_cons_of_neg Bool.false_ne_true

theorem Code.level_advance {frame : Frame α} {scope : List α} {script : Script α}
    (code : Code frame scope script) (frames : List (Frame α)) :
    level (frame.advance :: frames) = level frames := by
  cases code <;> exact List.countP_cons_of_neg Bool.false_ne_true

/-! ## Steps -/

variable [DecidableEq α] {program : Program α}

/-- An action leaves the stack below it alone, and the walk that it may begin is a deeper one. -/
theorem Performs.above {world : World α} {scope : List α} {frames : List (Frame α)}
    {action : Action α} {events : List (Event α)} {next : Config α}
    (performs : Performs world scope frames action events next) :
    (∃ pushed, next.frames = pushed ++ frames) ∧
      ∀ event ∈ events, ∀ other, event.level? = some other → level frames < other := by
  cases performs with
  | misaimed | releaseNothing | fail => exact ⟨⟨[], rfl⟩, List.forall_mem_nil _⟩
  | answer => exact ⟨⟨[_], rfl⟩, List.forall_mem_nil _⟩
  | release => exact ⟨⟨[_], rfl⟩, by simp [Event.level?]⟩
  | add | remove | clear => exact ⟨⟨[_, _], rfl⟩, by simp [Event.level?]⟩
  | forEach => exact ⟨⟨[_, _], rfl⟩, by simp [Event.level?]⟩

/-- A step leaves the stack below its topmost frame alone. -/
theorem Step.above {world : World α} {frame : Frame α} {below : List (Frame α)} {signal : Signal}
    {events : List (Event α)} {next : Config α}
    (step : Step program ⟨world, frame :: below, signal⟩ events next) :
    ∃ pushed, next.frames = pushed ++ below := by
  cases step with
  | perform code performs =>
      obtain ⟨pushed, frames⟩ := performs.above.1
      exact ⟨pushed ++ [frame.advance], by simpa using frames⟩
  | stepsDone | givenUp | scriptDone | scriptStop | settled | hookEnd | unlock => exact ⟨[], rfl⟩
  | stepEnd | stepFault | told | walkDone | walkStop | kept | died => exact ⟨[_], rfl⟩
  | skip => exact ⟨[_, _], rfl⟩
  | visit | diedHooked => exact ⟨[_, _, _], rfl⟩

/-- What happens in a step is about a walk that is not below the topmost frame, unless a visit ends
there. -/
theorem Step.level_of_mem {world : World α} {frame : Frame α} {below : List (Frame α)}
    {signal : Signal} {events : List (Event α)} {next : Config α} {event : Event α} {other : Nat}
    (sound : Sound ⟨world, frame :: below, signal⟩)
    (step : Step program ⟨world, frame :: below, signal⟩ events next)
    (mem : event ∈ events) (about : event.level? = some other) :
    level below < other ∨ level below = other ∧ ∃ walk frames, below = .walk walk :: frames := by
  cases step with
  | perform code performs =>
      have deeper := performs.above.2 event mem other about
      rw [code.level_advance] at deeper
      exact .inl deeper
  | walkDone | visit | skip | walkStop =>
      cases List.mem_singleton.1 mem
      cases about
      exact .inl (Nat.lt_succ_self _)
  | scriptDone | scriptStop =>
      obtain ⟨handle, farther, rfl, rfl⟩ := mem_returnEvents mem
      cases about
      obtain ⟨stack, _⟩ := sound.idle_of_usesRoster rfl
      cases stack with
      | visit => exact .inr ⟨rfl, _, _, rfl⟩
  | told =>
      cases mem_value_events mem
      cases about
  | stepEnd | stepFault | settled | died | diedHooked | hookEnd =>
      cases List.mem_singleton.1 mem
      cases about
  | stepsDone | givenUp | kept | unlock => cases mem

/-- Nothing that a visit does is about its own walk. -/
theorem Step.quiet {world : World α} {frame : Frame α} {upper caller : List (Frame α)}
    {scope : List α} {rest : Script α} {walk : Walk α} {signal : Signal} {events : List (Event α)}
    {next : Config α}
    (sound : Sound ⟨world, frame :: (upper ++ .script scope rest :: .walk walk :: caller), signal⟩)
    (step : Step program
      ⟨world, frame :: (upper ++ .script scope rest :: .walk walk :: caller), signal⟩ events next) :
    Quiet (level caller + 1) events := by
  intro event mem about
  rcases step.level_of_mem sound mem about with deeper | ⟨same, walk', frames, below⟩
  · rw [level_append, level_script, level_walk] at deeper
    omega
  · -- a visit ends on top of its walk, and here that is a walk above the visit
    cases upper with
    | nil => cases below
    | cons top upper =>
        obtain rfl := (List.cons.inj below).1
        rw [List.cons_append, level_walk, level_append, level_script, level_walk] at same
        omega

end Herald.Roster
