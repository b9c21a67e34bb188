import Herald.Proofs.Roster.Level
import Herald.Proofs.Roster.Termination

/-!
# Letting go

Whoever lets go of handles does so one by one and in order (`LetsGo`). A handle dies at its turn
exactly if nothing else holds it then, and the hook of a handle that dies runs to its end before the
next handle has its turn. The hook may change who holds what, so who is the last holder of a handle
is only settled when its turn has come.

Every letting go comes to its end, and the work below waits until then (`Run.letsGo`).
-/

namespace Herald.Roster

variable {α : Type} [DecidableEq α] {program : Program α}

/-! ## Work that waits -/

/-- The machine goes on with what stands on top of some work, and that work waits. -/
inductive Meanwhile (program : Program α) (below : List (Frame α)) (start : Config α) :
    List (Event α) → Config α → Prop where
  | refl : Meanwhile program below start [] start
  | step {journal events : List (Event α)} {config next : Config α} {frame : Frame α}
      {upper : List (Frame α)} (meanwhile : Meanwhile program below start journal config)
      (above : config.frames = frame :: (upper ++ below))
      (stepped : config.step? program = some (next, events)) :
      Meanwhile program below start (journal ++ events) next

namespace Meanwhile

variable {below : List (Frame α)} {frame : Frame α} {start middle final : Config α}
  {journal events : List (Event α)}

theorem single (top : start.frames = frame :: below)
    (stepped : start.step? program = some (final, events)) :
    Meanwhile program below start events final :=
  .step .refl (top.trans (by rw [List.nil_append])) stepped

theorem trans (first : Meanwhile program below start journal middle)
    (second : Meanwhile program below middle events final) :
    Meanwhile program below start (journal ++ events) final := by
  induction second with
  | refl => simpa using first
  | step _ above stepped ih => simpa using ih.step above stepped

theorem steps (meanwhile : Meanwhile program below start journal final) :
    Steps program start journal final := by
  induction meanwhile with
  | refl => exact .refl
  | step _ _ stepped ih => exact ih.step stepped

/-- Work waits while what stands on top of it waits. -/
theorem of_cons (meanwhile : Meanwhile program (frame :: below) start journal final) :
    Meanwhile program below start journal final := by
  induction meanwhile with
  | refl => exact .refl
  | step _ above stepped ih => exact ih.step (above.trans (by rw [← List.append_cons])) stepped

end Meanwhile

/-! ## One by one -/

/-- Somebody lets go of handles, for the work in `below`, which is told `next` in the end: where the
machine stands before, which of the handles die, what happens, and where the machine stands when the
work below goes on. -/
inductive LetsGo (program : Program α) (cause : Cause) (next : Signal) (below : List (Frame α)) :
    List α → Config α → List α → List (Event α) → Config α → Prop where
  | settled {config final} (turn : config.frames = .letGo cause [] next :: below)
      (stepped : config.step? program = some (final, [.settled cause]))
      (back : final.frames = below) (told : final.signal = next) :
      LetsGo program cause next below [] config [] [.settled cause] final
  /-- Something else holds the handle whose turn it is. -/
  | kept {config after final handle handles dead events}
      (turn : config.frames = .letGo cause (handle :: handles) next :: below)
      (held : isHeld config.world (.letGo cause handles next :: below) handle)
      (stepped : config.step? program = some (after, []))
      (rest : LetsGo program cause next below handles after dead events final) :
      LetsGo program cause next below (handle :: handles) config dead events final
  /-- Nothing else holds the handle whose turn it is. If it has a hook, the hook runs to its end
  before the next turn. -/
  | died {config dying after final handle handles dead hook events}
      (turn : config.frames = .letGo cause (handle :: handles) next :: below)
      (last : ¬ isHeld config.world (.letGo cause handles next :: below) handle)
      (stepped : config.step? program =
        some (dying, [.died cause handle (program.hook? handle).isSome]))
      (hooked : Meanwhile program (.letGo cause handles next :: below) dying hook after)
      (rest : LetsGo program cause next below handles after dead events final) :
      LetsGo program cause next below (handle :: handles) config (handle :: dead)
        (.died cause handle (program.hook? handle).isSome :: (hook ++ events)) final

namespace LetsGo

variable {cause : Cause} {next : Signal} {below : List (Frame α)} {handles dead : List α}
  {config final : Config α} {events : List (Event α)}

/-- The work below waits until all handles have been let go, and then it goes on. -/
theorem meanwhile (going : LetsGo program cause next below handles config dead events final) :
    Meanwhile program below config events final ∧ final.frames = below ∧ final.signal = next := by
  induction going with
  | settled turn stepped back told => exact ⟨.single turn stepped, back, told⟩
  | kept turn _ stepped _ ih => exact ⟨(Meanwhile.single turn stepped).trans ih.1, ih.2⟩
  | died turn _ stepped hooked _ ih =>
      exact ⟨(Meanwhile.single turn stepped).trans (hooked.of_cons.trans ih.1), ih.2⟩

/-- The handles that die do so in the order in which they are let go. -/
theorem dead_sublist (going : LetsGo program cause next below handles config dead events final) :
    dead.Sublist handles := by
  induction going with
  | settled => exact .slnil
  | kept _ _ _ _ ih => exact ih.cons _
  | died _ _ _ _ _ ih => exact ih.cons_cons _

end LetsGo

/-! ## Runs -/

variable {past : List (Event α)} {start : Config α} {below : List (Frame α)}

/-- What stands on top of some work comes to its end, and the work waits until then. -/
theorem Run.comes_down (run : Run program past start) {frame : Frame α} {upper : List (Frame α)}
    (top : start.frames = frame :: (upper ++ below)) :
    ∃ journal config, Meanwhile program below start journal config ∧ config.frames = below := by
  obtain ⟨journal, config, -, there⟩ := Run.leads_to
    (fun journal config => Meanwhile program below start journal config ∧
      ∃ frame upper, config.frames = frame :: (upper ++ below))
    (fun journal config => Meanwhile program below start journal config ∧ config.frames = below)
    run ⟨.refl, frame, upper, top⟩
    (by rintro journal config ⟨-, frame, upper, frames⟩; simp [frames]) (by
      rintro journal ⟨world, stack, signal⟩ events after steps ⟨meanwhile, frame, upper, above⟩
        stepped
      obtain rfl : stack = _ := above
      have sound := Steps.sound (Run.sound run) steps
      obtain ⟨pushed, frames⟩ := (sound.step_of_step? stepped).above
      have further := meanwhile.step rfl stepped
      rw [← List.append_assoc] at frames
      cases whole : pushed ++ upper with
      | nil => exact .inr ⟨further, by rw [frames, whole, List.nil_append]⟩
      | cons other rest =>
          exact .inl ⟨further, other, rest, by rw [frames, whole, List.cons_append]⟩)
  exact ⟨journal, config, there⟩

/-- Every letting go comes to its end. -/
theorem Run.letsGo {cause : Cause} {handles : List α} {next : Signal}
    (run : Run program past start) (top : start.frames = .letGo cause handles next :: below) :
    ∃ dead journal final, LetsGo program cause next below handles start dead journal final := by
  induction handles generalizing past start with
  | nil =>
      obtain ⟨world, stack, signal⟩ := start
      obtain rfl : stack = _ := top
      have sound := Run.sound run
      have step : Step program ⟨world, .letGo cause [] next :: below, signal⟩ _ _ := .settled
      have stepped := step.step?_eq sound.ready sound.access_ne_broken
      exact ⟨[], _, _, .settled rfl stepped rfl rfl⟩
  | cons handle handles ih =>
      obtain ⟨world, stack, signal⟩ := start
      obtain rfl : stack = _ := top
      have sound := Run.sound run
      have takes {events after} (step : Step program
          ⟨world, .letGo cause (handle :: handles) next :: below, signal⟩ events after) :=
        step.step?_eq sound.ready sound.access_ne_broken
      by_cases held : isHeld world (.letGo cause handles next :: below) handle
      · have stepped := takes (.kept held)
        obtain ⟨dead, journal, final, rest⟩ := ih (run.step stepped) rfl
        exact ⟨dead, journal, final, .kept rfl held stepped rest⟩
      · cases hook : program.hook? handle with
        | none =>
            have stepped := takes (.died held hook)
            obtain ⟨dead, journal, final, rest⟩ := ih (run.step stepped) rfl
            rw [show false = (program.hook? handle).isSome by rw [hook]; rfl] at stepped
            exact ⟨_, _, final, .died rfl held stepped .refl rest⟩
        | some script =>
            have stepped := takes (.diedHooked held hook)
            have top :
                Frame.script [] script :: .hook handle :: .letGo cause handles next :: below =
                  .script [] script :: ([.hook handle] ++ .letGo cause handles next :: below) :=
              rfl
            obtain ⟨inner, after, hooked, back⟩ := Run.comes_down (run.step stepped) top
            obtain ⟨dead, journal, final, rest⟩ :=
              ih ((run.step stepped).trans hooked.steps) back
            rw [show true = (program.hook? handle).isSome by rw [hook]; rfl] at stepped
            exact ⟨_, _, final, .died rfl held stepped hooked rest⟩

end Herald.Roster
