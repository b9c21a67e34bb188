import Herald.Proofs.Roster.Invariant
import Mathlib.Data.List.Perm.Subperm

/-!
# Nothing that has died comes back

A step never gives a holder to a handle that had none (`Step.isHeld_of_isHeld`): an action can only
be aimed at a handle that the program or a walk holds. So every handle that is held at some point of
a run is one that the program started with (`Run.mem_handles_of_isHeld`), and the roster never has
more entries than the program has handles.
-/

namespace Herald.Roster

variable {α : Type} [DecidableEq α]

/-- What is held after an action has begun was held before. -/
theorem Performs.isHeld_of_isHeld {world : World α} {scope : List α} {frame : Frame α}
    {frames : List (Frame α)} {script : Script α} {action : Action α} {events : List (Event α)}
    {next : Config α} {handle : α} (stack : Idle (frame :: frames)) (code : Code frame scope script)
    (performs : Performs world scope (frame.advance :: frames) action events next)
    (held : isHeld next.world next.frames handle) : isHeld world (frame :: frames) handle := by
  rw [isHeld_iff] at held ⊢
  cases performs with
  | misaimed | answer | releaseNothing | fail => simpa using held
  | add aimed =>
      have keeps := (stack.keeps_of_resolve code aimed).held
      simp only [mem_handles_add, holds_cons, held_unlock, held_letGo, held_advance,
        List.mem_ite_nil_right, List.mem_singleton, List.not_mem_nil, false_or] at held keeps ⊢
      rcases held with pooled | (registered | rfl) | (⟨_, rfl⟩ | holds)
      · exact .inl pooled
      · exact .inr (.inl registered)
      · exact keeps.imp_right .inr
      · exact keeps.imp_right .inr
      · exact .inr (.inr holds)
  | remove aimed =>
      have keeps := (stack.keeps_of_resolve code aimed).held
      simp only [handles_remove, holds_cons, held_unlock, held_letGo, held_advance,
        List.mem_ite_nil_right, List.mem_singleton, List.not_mem_nil, false_or] at held keeps ⊢
      rcases held with pooled | registered | (⟨_, rfl⟩ | holds)
      · exact .inl pooled
      · exact .inr (.inl (List.mem_of_mem_erase registered))
      · exact keeps.imp_right .inr
      · exact .inr (.inr holds)
  | clear => simpa [handles_clear] using held
  | release pooled =>
      simp only [holds_cons, held_letGo, held_advance, List.mem_singleton,
        List.mem_filter] at held ⊢
      rcases held with ⟨pooled, _⟩ | registered | (rfl | holds)
      · exact .inl pooled
      · exact .inr (.inl registered)
      · exact .inl pooled
      · exact .inr (.inr holds)
  | forEach =>
      simp only [holds_cons, held_unlock, held_walk, held_advance, Walk.begin,
        List.not_mem_nil, false_or] at held ⊢
      rcases held with pooled | registered | (registered | holds)
      · exact .inl pooled
      · exact .inr (.inl registered)
      · exact .inr (.inl registered)
      · exact .inr (.inr holds)

/-- What is held after a step was held before. -/
theorem Step.isHeld_of_isHeld {program : Program α} {config next : Config α}
    {events : List (Event α)} {handle : α} (sound : Sound config)
    (step : Step program config events next) (held : isHeld next.world next.frames handle) :
    isHeld config.world config.frames handle := by
  cases step with
  | perform code performs =>
      obtain ⟨stack, _⟩ := sound.idle_of_usesRoster code.usesRoster
      exact performs.isHeld_of_isHeld stack code held
  | kept | died | diedHooked =>
      rw [isHeld_iff] at held ⊢
      simp only [holds_cons, held_script, held_hook, held_letGo, List.mem_cons, List.not_mem_nil,
        false_or] at held ⊢
      exact held.imp_right (.imp_right (.imp_left .inr))
  | stepsDone | stepEnd | stepFault | givenUp | scriptDone | told | scriptStop | walkDone | visit
  | skip | walkStop | settled | hookEnd | unlock => simpa [isHeld_iff] using held

/-! ## Runs -/

variable {program : Program α} {config : Config α} {journal : List (Event α)}

/-- Only handles that the program started with are ever held. -/
theorem Run.mem_handles_of_isHeld (run : Run program journal config) {handle : α}
    (held : isHeld config.world config.frames handle) :
    handle ∈ program.handles.map Prod.fst := by
  induction run with
  | refl => simpa [isHeld_iff, Program.start, Holds, handles] using held
  | step run stepped ih =>
      have sound := Run.sound run
      exact ih ((sound.step_of_step? stepped).isHeld_of_isHeld sound held)

/-- The roster never has more entries than the program has handles. -/
theorem Run.size_le (run : Run program journal config) :
    config.world.roster.size ≤ program.handles.length := by
  have known : config.world.roster.handles ⊆ program.handles.map Prod.fst := by
    intro handle mem
    apply run.mem_handles_of_isHeld
    rw [isHeld_iff]
    exact .inr (.inl mem)
  have fewer := (List.subperm_of_subset (Run.wellFormed run).distinct known).length_le
  simpa [size_eq_length_handles] using fewer

end Herald.Roster
