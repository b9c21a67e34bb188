import Herald.Proofs.Roster.Holders
import Mathlib.Algebra.Ring.Nat

/-!
# Every program runs to its end

The weight of a configuration bounds what the machine still has to do: the scripts on the stack, the
scripts that its walks may still run, and the hooks of the handles that are still held. Each step
makes it smaller (`Step.weight_lt`), because a walk visits an entry of its snapshot at most once and
a handle that has died stays dead. At the start it is at most the cost of the program.

So the machine goes on until all work is done, and the cost is enough for that
(`Program.run_finishes`). `Run.leads_to` is the form in which this is used elsewhere: a run cannot
stay for ever in anything where the machine is never at rest.
-/

namespace Herald.Roster

variable {α : Type}

/-! ## Costs -/

/-- An action costs at least what a clearing takes. -/
theorem Action.le_cost (n : Nat) (action : Action α) : n + 8 ≤ action.cost n := by
  cases action <;> simp only [Action.cost] <;> omega

theorem costOfScript_pos (n : Nat) (script : Script α) : 0 < costOfScript n script := by
  cases script with
  | nil => exact Nat.one_pos
  | cons action rest =>
      have := action.le_cost n
      simp only [costOfScript]
      omega

theorem costOfScript_append (n : Nat) (first second : Script α) :
    costOfScript n (first ++ second) + 1 = costOfScript n first + costOfScript n second := by
  induction first with
  | nil => simp [costOfScript, Nat.add_comm]
  | cons action rest ih =>
      simp only [List.cons_append, costOfScript]
      omega

theorem costOfHooks_le_cons (n : Nat) (pair : α × Option (Script α))
    (handles : List (α × Option (Script α))) :
    costOfHooks n handles ≤ costOfHooks n (pair :: handles) := by
  obtain ⟨handle, hook⟩ := pair
  cases hook <;> simp only [costOfHooks] <;> omega

theorem costOfHooks_filter_le (n : Nat) (pair : α × Option (Script α))
    (handles : List (α × Option (Script α))) (many : α × Option (Script α) → Bool) :
    costOfHooks n (handles.filter many) ≤ costOfHooks n ((pair :: handles).filter many) := by
  rw [List.filter_cons]
  split
  · exact costOfHooks_le_cons n pair _
  · exact Nat.le_refl _

/-- The hooks of fewer handles cost less. -/
theorem costOfHooks_mono (n : Nat) (handles : List (α × Option (Script α)))
    {few many : α × Option (Script α) → Bool} (fewer : ∀ pair, few pair → many pair) :
    costOfHooks n (handles.filter few) ≤ costOfHooks n (handles.filter many) := by
  induction handles with
  | nil => exact Nat.le_refl _
  | cons pair rest ih =>
      obtain ⟨handle, hook⟩ := pair
      by_cases hfew : few (handle, hook)
      · rw [List.filter_cons_of_pos hfew, List.filter_cons_of_pos (fewer _ hfew)]
        cases hook <;> simp only [costOfHooks] <;> omega
      · rw [List.filter_cons_of_neg hfew]
        exact Nat.le_trans ih (costOfHooks_filter_le n _ rest many)

variable [DecidableEq α]

/-- Without a handle that has a hook, the hooks cost less by the cost of that hook. -/
theorem costOfHooks_add_le (n : Nat) {handles : List (α × Option (Script α))}
    {few many : α × Option (Script α) → Bool} {handle : α} {script : Script α}
    (hook : (handles.lookup handle).join = some script) (fewer : ∀ pair, few pair → many pair)
    (gone : ∀ hook, few (handle, hook) = false) (held : ∀ hook, many (handle, hook)) :
    costOfHooks n (handles.filter few) + costOfScript n script + 2 ≤
      costOfHooks n (handles.filter many) := by
  induction handles with
  | nil => simp at hook
  | cons pair rest ih =>
      obtain ⟨other, otherHook⟩ := pair
      by_cases same : handle = other
      · subst same
        obtain rfl : otherHook = some script := by simpa using hook
        have := costOfHooks_mono n rest fewer
        rw [List.filter_cons_of_neg (by simp [gone]), List.filter_cons_of_pos (held _)]
        simp only [costOfHooks]
        omega
      · have different : (handle == other) = false := beq_false_of_ne same
        have ih := ih (by simpa only [List.lookup_cons, different] using hook)
        by_cases hfew : few (other, otherHook)
        · rw [List.filter_cons_of_pos hfew, List.filter_cons_of_pos (fewer _ hfew)]
          cases otherHook <;> simp only [costOfHooks] <;> omega
        · rw [List.filter_cons_of_neg hfew]
          exact Nat.le_trans ih (costOfHooks_filter_le n _ rest many)

/-- The cost of the script that a table has for a handle. -/
def tableCost (n : Nat) (on : List (α × Script α)) (handle : α) : Nat :=
  match on.lookup handle with
  | some script => costOfScript n script
  | none => 0

theorem tableCost_cons (n : Nat) (other : α) (script : Script α) (on : List (α × Script α))
    (handle : α) :
    tableCost n ((other, script) :: on) handle =
      if handle = other then costOfScript n script else tableCost n on handle := by
  by_cases same : handle = other
  · simp [tableCost, same]
  · have different : (handle == other) = false := beq_false_of_ne same
    simp only [tableCost, List.lookup_cons, different, if_neg same]

/-- Distinct handles run distinct scripts of a table. -/
theorem sum_tableCost_le (n : Nat) (on : List (α × Script α)) {handles : List α}
    (distinct : handles.Nodup) :
    (handles.map (tableCost n on)).sum ≤ costOfTable n on := by
  induction on with
  | nil =>
      have zero : handles.map (tableCost n []) = handles.map fun _ => 0 := rfl
      simp [zero]
  | cons pair on ih =>
      obtain ⟨other, script⟩ := pair
      suffices one : (handles.map (tableCost n ((other, script) :: on))).sum ≤
          costOfScript n script + (handles.map (tableCost n on)).sum by
        simp only [costOfTable]
        omega
      clear ih
      -- only one of the handles can be the one of the first pair
      induction handles with
      | nil => simp
      | cons handle handles ih =>
          obtain ⟨notMem, distinct⟩ := List.nodup_cons.1 distinct
          simp only [List.map_cons, List.sum_cons, tableCost_cons]
          split
          · next same =>
            have others : handles.map (tableCost n ((other, script) :: on)) =
                handles.map (tableCost n on) := by
              apply List.map_congr_left
              intro handle' mem
              have : handle' ≠ other := fun same' => notMem (same ▸ same' ▸ mem)
              rw [tableCost_cons, if_neg this]
            rw [others]
            omega
          · have := ih distinct
            omega

/-- The script of the next visit costs no more than the scripts that it is made of. -/
theorem Walk.costOfScript_script_le (n : Nat) (walk : Walk α) (handle : α) :
    costOfScript n (walk.script handle) + costOfTurns n (walk.turns.drop (walk.visits + 1)) ≤
      1 + costOfTurns n (walk.turns.drop walk.visits) + tableCost n walk.on handle := by
  have joined := costOfScript_append n ((walk.turns[walk.visits]?).getD [])
    ((walk.on.lookup handle).getD [])
  have table : costOfScript n ((walk.on.lookup handle).getD []) ≤
      1 + tableCost n walk.on handle := by
    unfold tableCost
    cases walk.on.lookup handle <;> simp [costOfScript]
  have turn : costOfScript n ((walk.turns[walk.visits]?).getD []) +
      costOfTurns n (walk.turns.drop (walk.visits + 1)) ≤
        1 + costOfTurns n (walk.turns.drop walk.visits) := by
    by_cases inside : walk.visits < walk.turns.length
    · rw [List.drop_eq_getElem_cons inside, List.getElem?_eq_getElem inside]
      simp [costOfTurns]
    · have outside : walk.turns.length ≤ walk.visits := by omega
      rw [List.getElem?_eq_none outside, List.drop_eq_nil_of_le outside,
        List.drop_eq_nil_of_le (by omega)]
      simp [costOfTurns, costOfScript]
  unfold Walk.script
  omega

/-! ## Weights -/

omit [DecidableEq α] in
/-- What a signal still causes. -/
def Signal.weight : Signal → Nat
  | .proceed => 0
  | .deliver _ => 1
  | .raise _ => 1

@[simp] theorem weight_proceed : Signal.proceed.weight = 0 := rfl

@[simp] theorem weight_raise (stop : Stop) : (Signal.raise stop).weight = 1 := rfl

theorem Signal.weight_le (signal : Signal) : signal.weight ≤ 1 := by
  cases signal <;> simp [Signal.weight]

/-- What a frame still causes, where no roster ever holds more than `n` handles. -/
def Frame.weight (n : Nat) : Frame α → Nat
  | .steps rest => costOfScript n rest
  | .script _ rest => costOfScript n rest
  | .walk w =>
    3 * w.pending.length + (w.pending.map fun entry => tableCost n w.on entry.handle).sum +
      costOfTurns n (w.turns.drop w.visits) + w.snapshot.length + 3
  | .letGo _ handles next => handles.length + 1 + next.weight
  | .hook _ => 1
  | .unlock next => 1 + next.weight

/-- What a stack still causes. -/
def stackWeight (n : Nat) : List (Frame α) → Nat
  | [] => 0
  | frame :: frames => frame.weight n + stackWeight n frames

/-- What the machine still has to do. -/
def Config.weight (program : Program α) (config : Config α) : Nat :=
  let n := program.handles.length
  costOfHooks n (program.handles.filter fun pair => isHeld config.world config.frames pair.1) +
    stackWeight n config.frames + config.signal.weight

/-- At the start of a program its weight is its cost at most. -/
theorem Program.weight_start_le (program : Program α) :
    program.start.weight program ≤ program.cost := by
  have hooks : costOfHooks program.handles.length (program.handles.filter fun pair =>
      isHeld program.start.world program.start.frames pair.1) ≤
        costOfHooks program.handles.length (program.handles.filter fun _ => true) :=
    costOfHooks_mono _ _ fun _ _ => rfl
  rw [List.filter_true] at hooks
  simp only [Config.weight, Program.cost]
  simp only [Program.start, stackWeight, Frame.weight, Signal.weight] at hooks ⊢
  omega

/-- The stack and the signal weigh less after an action has begun. -/
theorem Performs.weight_lt {n : Nat} {world : World α} {scope : List α} {frames : List (Frame α)}
    {action : Action α} {events : List (Event α)} {next : Config α}
    (distinct : world.roster.handles.Nodup) (size : world.roster.size ≤ n)
    (performs : Performs world scope frames action events next) :
    stackWeight n next.frames + next.signal.weight < action.cost n + stackWeight n frames := by
  have cost := action.le_cost n
  cases performs with
  | misaimed | releaseNothing | fail => simp only [Signal.weight]; omega
  | @add _ handle aimed | @remove _ handle aimed =>
      have one : (if world.roster.contains handle then [handle] else []).length ≤ 1 := by
        split <;> simp
      simp only [stackWeight, Frame.weight, Signal.weight]
      omega
  | clear =>
      rw [size_eq_length_handles] at size
      simp only [stackWeight, Frame.weight, Signal.weight]
      omega
  | answer | release =>
      simp only [stackWeight, Frame.weight, Signal.weight, List.length_singleton]
      omega
  | @forEach turns on catching =>
      have entries : world.roster.entries.length ≤ n := size
      have table := sum_tableCost_le n on distinct
      rw [handles, List.map_map] at table
      simp only [stackWeight, Frame.weight, Signal.weight, Walk.begin, Action.cost,
        List.drop_zero] at cost ⊢
      simp only [Function.comp_def] at table
      omega

/-- The stack and the signal weigh less after a step, or a handle has died and its hook begins,
which weighs no more than it costs. -/
theorem Step.stackWeight_lt {program : Program α} {n : Nat} {config next : Config α}
    {events : List (Event α)} (distinct : config.world.roster.handles.Nodup)
    (size : config.world.roster.size ≤ n) (step : Step program config events next) :
    stackWeight n next.frames + next.signal.weight <
        stackWeight n config.frames + config.signal.weight ∨
      ∃ handle script, program.hook? handle = some script ∧
        isHeld config.world config.frames handle ∧ ¬ isHeld next.world next.frames handle ∧
        stackWeight n next.frames + next.signal.weight <
          stackWeight n config.frames + config.signal.weight + costOfScript n script + 2 := by
  cases step with
  | perform code performs =>
      have less := performs.weight_lt distinct size
      cases code <;> simp only [stackWeight, Frame.advance, Frame.weight, costOfScript,
        List.tail_cons, Signal.weight] at less ⊢ <;> omega
  | stepsDone | scriptDone =>
      simp only [stackWeight, Frame.weight, costOfScript, Signal.weight]
      omega
  | stepEnd | stepFault | told | hookEnd | unlock =>
      simp only [stackWeight, Frame.weight, Signal.weight]
      omega
  | @givenUp _ rest | @scriptStop _ _ rest =>
      have := costOfScript_pos n rest
      simp only [stackWeight, Frame.weight, Signal.weight]
      omega
  | walkDone =>
      simp only [stackWeight, Frame.weight, Signal.weight, List.length_map]
      omega
  | @walkStop _ walk _ stop =>
      have passed := (walk.pass stop).weight_le
      simp only [stackWeight, Frame.weight, weight_proceed, weight_raise, List.length_map]
      omega
  | @visit _ walk entry pending _ _ _ turn =>
      have script := walk.costOfScript_script_le n entry.handle
      simp only [stackWeight, Frame.weight, Signal.weight, turn, List.length_cons, List.map_cons,
        List.sum_cons]
      omega
  | skip _ turn =>
      simp only [stackWeight, Frame.weight, Signal.weight, turn, List.length_cons, List.map_cons,
        List.sum_cons]
      omega
  | settled =>
      simp only [stackWeight, Frame.weight, List.length_nil]
      omega
  | kept | died =>
      simp only [stackWeight, Frame.weight, Signal.weight, List.length_cons]
      omega
  | @diedHooked _ _ handle _ _ _ _ script last hooked =>
      refine .inr ⟨handle, script, hooked, isHeld_iff.2 (by simp), ?_, ?_⟩
      · simpa [isHeld_iff] using last
      · simp only [stackWeight, Frame.weight, Signal.weight, List.length_cons]
        omega

/-- Each step leaves less to do. -/
theorem Step.weight_lt {program : Program α} {config next : Config α} {events : List (Event α)}
    (sound : Sound config) (distinct : config.world.roster.handles.Nodup)
    (size : config.world.roster.size ≤ program.handles.length)
    (step : Step program config events next) :
    next.weight program < config.weight program := by
  have fewer : ∀ pair : α × Option (Script α), isHeld next.world next.frames pair.1 →
      isHeld config.world config.frames pair.1 := fun _ => step.isHeld_of_isHeld sound
  simp only [Config.weight]
  rcases step.stackWeight_lt distinct size with less | ⟨handle, script, hooked, held, gone, less⟩
  · have hooks := costOfHooks_mono program.handles.length program.handles fewer
    omega
  · -- the hook is paid for by what the death of its handle frees
    have hooks := costOfHooks_add_le program.handles.length hooked fewer
      (fun _ => Bool.eq_false_iff.2 gone) (fun _ => held)
    omega

/-! ## Runs -/

variable {program : Program α} {start config next : Config α}
  {before journal events : List (Event α)}

theorem Run.weight_lt (run : Run program journal config)
    (stepped : config.step? program = some (next, events)) :
    next.weight program < config.weight program :=
  have sound := Run.sound run
  (sound.step_of_step? stepped).weight_lt sound (Run.wellFormed run).distinct (Run.size_le run)

/-- As many steps as the weight take the machine to the end of its work. -/
theorem Run.advance_finishes (run : Run program before config) (fuel : Nat)
    (enough : config.weight program ≤ fuel) (journal : Array (Event α)) :
    (config.advance program fuel journal).1.frames = [] := by
  induction fuel generalizing before config journal with
  | zero =>
      cases stepped : config.step? program with
      | none => exact (Run.sound run).frames_eq_nil_of_step? stepped
      | some result =>
          obtain ⟨next, events⟩ := result
          have less := Run.weight_lt run stepped
          omega
  | succ fuel ih =>
      unfold Machine.advance
      split
      · next stepped => exact (Run.sound run).frames_eq_nil_of_step? stepped
      · next next events stepped =>
        have less := Run.weight_lt run stepped
        exact ih (run.step stepped) (by omega) _

/-- Running a program does all its work. -/
theorem Program.run_finishes (program : Program α) : program.run.1.frames = [] :=
  Run.advance_finishes .refl program.cost program.weight_start_le #[]

/-- A run leads to a goal if it is inside something that each step either stays inside of or leaves
for the goal, and in which the machine is never at rest. -/
theorem Run.leads_to (inside goal : List (Event α) → Config α → Prop)
    (run : Run program before start) (begins : inside [] start)
    (busy : ∀ journal config, inside journal config → config.frames ≠ [])
    (stays : ∀ journal config events next, Steps program start journal config →
      inside journal config → config.step? program = some (next, events) →
        inside (journal ++ events) next ∨ goal (journal ++ events) next) :
    ∃ journal config, Steps program start journal config ∧ goal journal config := by
  suffices leads : ∀ weight journal config, Steps program start journal config →
      inside journal config → config.weight program = weight →
        ∃ journal config, Steps program start journal config ∧ goal journal config from
    leads _ _ _ .refl begins rfl
  intro weight
  induction weight using Nat.strongRecOn with
  | ind weight ih =>
      rintro journal config steps here rfl
      have here' : Run program (before ++ journal) config := Machine.Steps.trans run steps
      cases stepped : config.step? program with
      | none => exact absurd ((Run.sound here').frames_eq_nil_of_step? stepped) (busy _ _ here)
      | some result =>
          obtain ⟨next, events⟩ := result
          rcases stays _ _ _ _ steps here stepped with there | there
          · exact ih _ (Run.weight_lt here' stepped) _ _ (steps.step stepped) there rfl
          · exact ⟨_, _, steps.step stepped, there⟩

end Herald.Roster
