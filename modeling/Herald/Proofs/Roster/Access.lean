import Herald.Proofs.Roster.Stack

/-!
# No use of the roster meets another

Whatever visits and hooks do with the roster, access to it is never broken (`access_of_run`). Code
and walks always find that nobody uses the roster. An entry is let go while its removal still has
access, but never by its last holder, and neither is an argument that was refused. So a hook, which
may do anything, only runs when nobody uses the roster.
-/

namespace Herald.Roster

variable {α : Type} [DecidableEq α] {program : Program α} {config next : Config α}
  {journal events : List (Event α)}

/-- When a handle dies nobody uses the roster, and it was neither a removal nor a registration that
let the handle go. -/
theorem Step.free_of_died {cause : Cause} {handle : α} {hooked : Bool} (sound : Sound config)
    (step : Step program config events next) (died : .died cause handle hooked ∈ events) :
    cause.mayKill ∧ config.world.access = .free := by
  cases step with
  | died last | diedHooked last =>
      obtain ⟨_, free, kills⟩ := sound.idle_of_last last
      cases List.mem_singleton.1 died
      exact ⟨kills, free⟩
  | perform code performs =>
      -- an action is told of by at most one event, which is not about a death
      cases performs <;> cases died <;> contradiction
  | told => cases mem_value_events died
  | scriptDone | scriptStop =>
      obtain ⟨_, _, _, same⟩ := mem_returnEvents died
      cases same
  | stepsDone | givenUp | kept | unlock => cases died
  | stepEnd | stepFault | walkDone | visit | skip | walkStop | settled | hookEnd =>
      cases List.mem_singleton.1 died

omit [DecidableEq α] in
/-- An entry that is let go under a removal is held by the program or by the walk that is visiting
it. -/
theorem Sound.keeps_of_removal {world : World α} {handle : α} {handles : List α}
    {next signal : Signal} {frames : List (Frame α)}
    (sound : Sound ⟨world, .letGo .removal (handle :: handles) next :: frames, signal⟩) :
    world.access = .exclusive ∧
      ∃ below, frames = .unlock (.deliver .unit) :: below ∧ Keeps world below handle := by
  cases sound with
  | idle stack => cases stack; contradiction
  | removing stack code used kept => exact ⟨used, _, rfl, kept handle (by simp)⟩

omit [DecidableEq α] in
/-- A refused argument is held by its entry. -/
theorem Sound.mem_handles_of_argument {world : World α} {handle : α} {handles : List α}
    {next signal : Signal} {frames : List (Frame α)}
    (sound : Sound ⟨world, .letGo .argument (handle :: handles) next :: frames, signal⟩) :
    world.access = .free ∧ handle ∈ world.roster.handles := by
  cases sound with
  | idle stack => cases stack; contradiction
  | refusing stack code free registered => exact ⟨free, registered handle (by simp)⟩

/-- At every point of every run, access to the roster is not broken, and whenever the steps of the
program, a visit, a hook or a walk are the topmost work nobody uses the roster. The entry that a
removal lets go while it has exclusive access is held by the program or by the walk that is visiting
the handle, and the argument that a registration refuses is held by its entry. A handle dies only
when a clearing, a walk or the program lets it go, and nobody uses the roster then. -/
theorem access_of_run (run : Run program journal config) :
    config.world.access ≠ .broken ∧
      (∀ frame frames, config.frames = frame :: frames → frame.usesRoster →
        config.world.access = .free) ∧
      (∀ handle handles next frames,
        config.frames = .letGo .removal (handle :: handles) next :: frames →
          config.world.access = .exclusive ∧
            ∃ below, frames = .unlock (.deliver .unit) :: below ∧
              Keeps config.world below handle) ∧
      (∀ handle handles next frames,
        config.frames = .letGo .argument (handle :: handles) next :: frames →
          config.world.access = .free ∧ handle ∈ config.world.roster.handles) ∧
      ∀ next events cause handle hooked, config.step? program = some (next, events) →
        .died cause handle hooked ∈ events →
          (cause = .clearing ∨ cause = .walk ∨ cause = .release) ∧
            config.world.access = .free := by
  have sound := Run.sound run
  obtain ⟨world, stack, signal⟩ := config
  refine ⟨sound.access_ne_broken, ?_, ?_, ?_, ?_⟩
  · rintro frame frames rfl uses
    exact (sound.idle_of_usesRoster uses).2
  · rintro handle handles next frames rfl
    exact sound.keeps_of_removal
  · rintro handle handles next frames rfl
    exact sound.mem_handles_of_argument
  · intro next events cause handle hooked stepped died
    obtain ⟨kills, free⟩ := (sound.step_of_step? stepped).free_of_died sound died
    refine ⟨?_, free⟩
    cases cause with
    | argument | removal => cases kills
    | clearing => exact .inl rfl
    | walk => exact .inr (.inl rfl)
    | release => exact .inr (.inr rfl)

/-- In its first visit `reentrant` lets go of the visited handle under a removal. -/
theorem reentrant_access :
    Run reentrant (reentrant.start.advance reentrant 21 #[]).2.toList
        (reentrant.start.advance reentrant 21 #[]).1 ∧
      (reentrant.start.advance reentrant 21 #[]).1.world.access = .exclusive ∧
      (reentrant.start.advance reentrant 21 #[]).1.world.access ≠ .broken :=
  ⟨reentrant.advance_isRun 21, rfl, (access_of_run (reentrant.advance_isRun 21)).1⟩

end Herald.Roster
