import Herald.Proofs.Roster.LettingGo
import Herald.Proofs.Roster.Underway

/-!
# How long handles live

A handle is alive as long as anybody holds it: a step takes its last holder from a handle exactly
if the handle dies in the step (`Step.isHeld_iff`), and no step gives a holder back. So at every
point of a run the handles that have not died are those that are held (`Run.alive_iff_isHeld`), no
handle dies twice (`Run.nodup_deaths`), and a handle in the snapshot of a walk that is under way is
alive whatever happens to the roster (`Run.alive_of_inSnapshot`).

The hook of a handle runs when the handle dies and at no other time (`Run.hooks_perm`), so it runs
at most once. `lifetime_of_run` adds how a walk that has ended lets go of its snapshot.
-/

namespace Herald.Roster

variable {α : Type}

/-! ## Deaths and hooks in a journal -/

/-- The handle that dies with an event. -/
def Event.death? : Event α → Option α
  | .died _ handle _ => some handle
  | _ => none

/-- The handles that have died, in order. -/
def deaths (journal : List (Event α)) : List α :=
  journal.filterMap Event.death?

/-- A handle of the program that has not died. -/
def Alive (program : Program α) (journal : List (Event α)) (handle : α) : Prop :=
  handle ∈ program.handles.map Prod.fst ∧ handle ∉ deaths journal

/-- The handle whose hook begins to run with an event. -/
def Event.hookStart? : Event α → Option α
  | .died _ handle true => some handle
  | _ => none

/-- The handle whose hook comes to its end with an event. -/
def Event.hookEnd? : Event α → Option α
  | .hookEnded handle _ => some handle
  | _ => none

/-- The handle whose hook is at work. -/
def Frame.hook? : Frame α → Option α
  | .hook handle => some handle
  | _ => none

/-- The handles whose hooks have run to their end, and those whose hooks are at work. -/
def hooksRun (journal : List (Event α)) (frames : List (Frame α)) : List α :=
  journal.filterMap Event.hookEnd? ++ frames.filterMap Frame.hook?

/-- The program holds a handle, perhaps in the act of giving it up. -/
def Pooled (config : Config α) (handle : α) : Prop :=
  handle ∈ config.world.pool ∨
    ∃ handles next, .letGo .release handles next ∈ config.frames ∧ handle ∈ handles

/-- The snapshot of a walk that is under way has a handle. -/
def InSnapshot (journal : List (Event α)) (handle : α) : Prop :=
  ∃ depth snapshot before during, Underway depth snapshot before during journal ∧
    handle ∈ snapshot.map Entry.handle

@[simp] theorem deaths_append (journal events : List (Event α)) :
    deaths (journal ++ events) = deaths journal ++ deaths events :=
  List.filterMap_append

theorem mem_deaths {journal : List (Event α)} {handle : α} :
    handle ∈ deaths journal ↔ ∃ cause hooked, .died cause handle hooked ∈ journal := by
  simp only [deaths, List.mem_filterMap]
  constructor
  · rintro ⟨event, mem, death⟩
    cases event with
    | died cause _ hooked =>
        cases death
        exact ⟨cause, hooked, mem⟩
    | _ => cases death
  · rintro ⟨cause, hooked, mem⟩
    exact ⟨_, mem, rfl⟩

/-- A hook that begins to run is that of a handle that dies. -/
theorem hookStarts_sublist_deaths (journal : List (Event α)) :
    (journal.filterMap Event.hookStart?).Sublist (deaths journal) := by
  unfold deaths
  induction journal with
  | nil => exact .slnil
  | cons event journal ih =>
      rw [List.filterMap_cons, List.filterMap_cons]
      cases event with
      | died cause handle hooked =>
          cases hooked with
          | false => exact ih.cons _
          | true => exact ih.cons_cons _
      | _ => exact ih

variable [DecidableEq α] {program : Program α}

/-! ## Steps -/

section
variable {config next : Config α} {events : List (Event α)} {handle : α}

/-- An action takes its last holder from no handle. -/
theorem Performs.isHeld_next {world : World α} {scope : List α} {frames : List (Frame α)}
    {action : Action α} (performs : Performs world scope frames action events next)
    (held : isHeld world frames handle) : isHeld next.world next.frames handle := by
  rw [isHeld_iff] at held ⊢
  cases performs with
  | misaimed | releaseNothing | fail => exact held
  | answer => simpa using held
  | add =>
      simp only [mem_handles_add, holds_cons]
      exact held.imp_right (.imp .inl fun holds => .inr (.inr holds))
  | @remove _ other =>
      simp only [handles_remove, holds_cons, held_letGo]
      rcases held with pooled | registered | holds
      · exact .inl pooled
      · by_cases same : handle = other
        · -- the entry of the handle has gone over to the removal
          subst same
          rw [if_pos (contains_iff.2 registered)]
          exact .inr (.inr (.inl (.head _)))
        · exact .inr (.inl ((List.mem_erase_of_ne same).2 registered))
      · exact .inr (.inr (.inr (.inr holds)))
  | clear =>
      simp only [holds_cons, held_letGo]
      rcases held with pooled | registered | holds
      · exact .inl pooled
      · exact .inr (.inr (.inr (.inl registered)))
      · exact .inr (.inr (.inr (.inr holds)))
  | @release other =>
      simp only [holds_cons, held_letGo, List.mem_filter, List.mem_singleton]
      rcases held with pooled | registered | holds
      · by_cases same : handle = other
        · exact .inr (.inr (.inl same))
        · exact .inl ⟨pooled, by simpa using same⟩
      · exact .inr (.inl registered)
      · exact .inr (.inr (.inr holds))
  | forEach =>
      simp only [holds_cons]
      exact held.imp_right (.imp_right fun holds => .inr (.inr holds))

/-- A handle that dies was held by whoever lets it go, and by nobody else. -/
theorem Step.of_died {cause : Cause} {hooked : Bool} (step : Step program config events next)
    (died : .died cause handle hooked ∈ events) :
    events = [.died cause handle hooked] ∧ isHeld config.world config.frames handle ∧
      ¬ isHeld next.world next.frames handle := by
  cases step with
  | died last | diedHooked last =>
      cases List.mem_singleton.1 died
      refine ⟨rfl, isHeld_iff.2 (by simp), ?_⟩
      simpa [isHeld_iff] using last
  | perform code performs => cases performs <;> simp at died
  | _ => simp at died

/-- What was held is held after a step, or dies in it. -/
theorem Step.isHeld_next (step : Step program config events next)
    (held : isHeld config.world config.frames handle) (lives : handle ∉ deaths events) :
    isHeld next.world next.frames handle := by
  cases step with
  | perform code performs =>
      apply performs.isHeld_next
      rw [isHeld_iff] at held ⊢
      simpa using held
  | kept other =>
      rw [isHeld_iff] at held other ⊢
      simp only [holds_cons, held_letGo, List.mem_cons] at held other ⊢
      rcases held with pooled | registered | (rfl | rest) | holds
      · exact .inl pooled
      · exact .inr (.inl registered)
      · exact other
      · exact .inr (.inr (.inl rest))
      · exact .inr (.inr (.inr holds))
  | died | diedHooked =>
      have different : handle ≠ _ := fun same => lives (List.mem_singleton.2 same)
      simpa [isHeld_iff, different] using held
  | stepsDone | stepEnd | stepFault | givenUp | scriptDone | told | scriptStop | walkDone | visit
  | skip | walkStop | settled | hookEnd | unlock => simpa [isHeld_iff] using held

/-- A handle is held after a step exactly if it was held before and does not die in the step. -/
theorem Step.isHeld_iff (sound : Sound config) (step : Step program config events next) :
    isHeld next.world next.frames handle ↔
      isHeld config.world config.frames handle ∧ handle ∉ deaths events := by
  constructor
  · intro held
    refine ⟨step.isHeld_of_isHeld sound held, fun dead => ?_⟩
    obtain ⟨cause, hooked, died⟩ := mem_deaths.1 dead
    exact (step.of_died died).2.2 held
  · rintro ⟨held, lives⟩
    exact step.isHeld_next held lives

/-- A hook begins to run when its handle dies, and is at work until it ends. -/
theorem Step.hooks (step : Step program config events next) :
    hooksRun events next.frames =
      events.filterMap Event.hookStart? ++ config.frames.filterMap Frame.hook? := by
  cases step with
  | perform code performs => cases performs <;> cases code <;> rfl
  | @told _ _ _ _ value =>
      unfold Value.events
      split <;> rfl
  | @scriptDone _ scope | @scriptStop _ scope => cases scope <;> rfl
  | stepsDone | stepEnd | stepFault | givenUp | walkDone | visit | skip | walkStop | settled | kept
  | died | diedHooked | hookEnd | unlock => rfl

end

/-! ## Holders -/

section
variable {world : World α} {config : Config α} {cause : Cause} {handles : List α} {next : Signal}
  {handle : α}

omit [DecidableEq α] in
/-- While nobody uses the roster, whoever lets go may be the last holder. -/
theorem Idle.mayKill_of_mem {frames : List (Frame α)} (stack : Idle frames)
    (there : .letGo cause handles next ∈ frames) : cause.mayKill := by
  induction stack with
  | done | steps => simp at there
  | visit _ _ ih | hookScript _ ih | walk _ _ _ ih | hook _ ih => exact ih (by simpa using there)
  | letGo _ _ kills ih =>
      rcases List.mem_cons.1 there with same | there
      · cases same
        exact kills
      · exact ih there

omit [DecidableEq α] in
/-- A handle that is let go under a removal or by a registration has another holder. -/
theorem Sound.kept_of_letGo (sound : Sound config)
    (there : .letGo cause handles next ∈ config.frames) (keeps : ¬ cause.mayKill)
    (mem : handle ∈ handles) :
    handle ∈ config.world.pool ∨ handle ∈ config.world.roster.handles ∨
      ∃ walk, .walk walk ∈ config.frames ∧ handle ∈ walk.snapshot.map Entry.handle := by
  cases sound with
  | idle stack => exact absurd (stack.mayKill_of_mem there) keeps
  | unlock stack =>
      exact absurd (stack.mayKill_of_mem (by simpa using there)) keeps
  | adding stack _ _ registered | refusing stack _ _ registered =>
      obtain ⟨rfl, rfl, rfl⟩ | there :
          (cause = .argument ∧ handles = _ ∧ next = _) ∨
            Frame.letGo cause handles next ∈ _ :: _ := by
        simpa [or_assoc] using there
      · exact .inr (.inl (registered handle mem))
      · exact absurd (stack.mayKill_of_mem there) keeps
  | removing stack _ _ kept =>
      obtain ⟨rfl, rfl, rfl⟩ | there :
          (cause = .removal ∧ handles = _ ∧ next = _) ∨
            Frame.letGo cause handles next ∈ _ :: _ := by
        simpa [or_assoc] using there
      · rcases kept handle mem with pooled | visiting
        · exact .inl pooled
        · obtain ⟨walk, there, snapshot⟩ := visiting.exists_walk
          exact .inr (.inr ⟨walk, .tail _ (.tail _ there), snapshot⟩)
      · exact absurd (stack.mayKill_of_mem there) keeps

/-- Nobody who has cleared the roster or ended a walk is still letting handles go. -/
def Config.Settled (config : Config α) : Prop :=
  ∀ cause handles next, .letGo cause handles next ∈ config.frames →
    cause = .clearing ∨ cause = .walk → handles = []

/-- If no clearing and no walk is still letting handles go, the holders are the program, the roster
and the walks on the stack. -/
theorem Sound.isHeld_iff_of_settled (sound : Sound config) (settled : config.Settled) :
    isHeld config.world config.frames handle ↔
      Pooled config handle ∨ config.world.roster.contains handle ∨
        ∃ walk, .walk walk ∈ config.frames ∧ handle ∈ walk.snapshot.map Entry.handle := by
  rw [isHeld_iff, contains_iff]
  constructor
  · rintro (pooled | registered | ⟨frame, there, held⟩)
    · exact .inl (.inl pooled)
    · exact .inr (.inl registered)
    · cases frame with
      | walk walk => exact .inr (.inr ⟨walk, there, held⟩)
      | letGo cause handles next =>
          have held : handle ∈ handles := held
          cases cause with
          | clearing | walk =>
              rw [settled _ _ _ there (by simp)] at held
              cases held
          | release => exact .inl (.inr ⟨_, _, there, held⟩)
          | argument | removal =>
              exact (sound.kept_of_letGo there (by simp [Cause.mayKill]) held).imp_left .inl
      | steps | script | hook | unlock => cases held
  · rintro ((pooled | ⟨handles, next, there, mem⟩) | registered | ⟨walk, there, mem⟩)
    · exact .inl pooled
    · exact .inr (.inr ⟨_, there, mem⟩)
    · exact .inr (.inl registered)
    · exact .inr (.inr ⟨_, there, mem⟩)

end

/-! ## Runs -/

section
variable {config next : Config α} {journal events : List (Event α)} {handle : α}

/-- A handle of the program is held as long as it has not died. -/
theorem Run.isHeld_iff_of_known (run : Run program journal config)
    (known : handle ∈ program.handles.map Prod.fst) :
    isHeld config.world config.frames handle ↔ handle ∉ deaths journal := by
  induction run with
  | refl =>
      have pooled : isHeld program.start.world program.start.frames handle :=
        isHeld_iff.2 (.inl known)
      simp [pooled, deaths]
  | step run stepped ih =>
      have sound := Run.sound run
      rw [(sound.step_of_step? stepped).isHeld_iff sound, ih, deaths_append, List.mem_append,
        not_or]

/-- The handles that are alive are those that are held. -/
theorem Run.alive_iff_isHeld (run : Run program journal config) :
    Alive program journal handle ↔ isHeld config.world config.frames handle := by
  constructor
  · rintro ⟨known, lives⟩
    exact (run.isHeld_iff_of_known known).2 lives
  · intro held
    have known := run.mem_handles_of_isHeld held
    exact ⟨known, (run.isHeld_iff_of_known known).1 held⟩

/-- Nobody dies twice. -/
theorem Run.nodup_deaths (run : Run program journal config) : (deaths journal).Nodup := by
  induction run with
  | refl => exact List.nodup_nil
  | @step journal events config next run stepped ih =>
      have step := (Run.sound run).step_of_step? stepped
      rw [deaths_append]
      by_cases quiet : deaths events = []
      · rwa [quiet, List.append_nil]
      · obtain ⟨handle, dead⟩ := List.exists_mem_of_ne_nil _ quiet
        obtain ⟨cause, hooked, died⟩ := mem_deaths.1 dead
        obtain ⟨rfl, held, -⟩ := step.of_died died
        have lived := (Run.alive_iff_isHeld run).2 held
        exact List.nodup_append.2 ⟨ih, List.nodup_singleton _, by
          rintro other mem _ (_ | ⟨_, _, _⟩) rfl
          exact lived.2 mem⟩

/-- The hooks that have begun to run are at work or have ended. -/
theorem Run.hooks_perm (run : Run program journal config) :
    (journal.filterMap Event.hookStart?).Perm (hooksRun journal config.frames) := by
  induction run with
  | refl => exact .nil
  | @step journal events config next run stepped ih =>
      have hooks := ((Run.sound run).step_of_step? stepped).hooks
      unfold hooksRun at hooks ih ⊢
      rw [List.filterMap_append, List.filterMap_append, List.append_assoc, hooks]
      refine (ih.append_right _).trans ?_
      rw [List.append_assoc]
      exact List.perm_append_comm.append_left _

/-- The handles in snapshots are those that walks on the stack hold. -/
theorem Run.inSnapshot_iff (run : Run program journal config) :
    InSnapshot journal handle ↔
      ∃ walk, .walk walk ∈ config.frames ∧ handle ∈ walk.snapshot.map Entry.handle := by
  constructor
  · rintro ⟨depth, snapshot, before, during, underway, mem⟩
    obtain ⟨origin, caller, start, begun, -, -, rfl, -, walking⟩ := run.begun_of_underway underway
    obtain ⟨pending, visits, there⟩ := walking.mem_frames
    exact ⟨_, there, mem⟩
  · rintro ⟨walk, there, mem⟩
    obtain ⟨upper, caller, frames⟩ := List.append_of_mem there
    obtain ⟨before, during, underway⟩ := run.underway_of_walk ⟨upper, frames.symm⟩
    exact ⟨_, _, before, during, underway, mem⟩

/-- Whoever is in the snapshot of a walk that is under way is alive. -/
theorem Run.alive_of_inSnapshot (run : Run program journal config)
    (inside : InSnapshot journal handle) : Alive program journal handle := by
  obtain ⟨walk, there, mem⟩ := run.inSnapshot_iff.1 inside
  exact run.alive_iff_isHeld.2 (isHeld_iff.2 (.inr (.inr ⟨_, there, mem⟩)))

/-- Whoever is visited is in the snapshot of a walk that is under way. -/
theorem Run.inSnapshot_of_visited {depth : Nat} {entry : Entry α}
    (run : Run program journal config) (stepped : config.step? program = some (next, events))
    (visited : .visited depth entry ∈ events) : InSnapshot (journal ++ events) entry.handle := by
  have step := (Run.sound run).step_of_step? stepped
  obtain ⟨walk, caller, -, -, pending, frames⟩ := step.of_visited visited
  have run : Run program (journal ++ events) next := run.step stepped
  refine run.inSnapshot_iff.2 ⟨{ walk with pending, visits := walk.visits + 1 }, ?_, ?_⟩
  · exact frames ▸ .tail _ (.tail _ (.head _))
  have sound := Run.sound run
  obtain ⟨world, stack, signal⟩ := next
  obtain rfl : stack = _ := frames
  cases sound with
  | idle stack => cases stack
  | unlock stack => exact stack.mem_snapshot

/-- Nobody holds a handle that has died. -/
theorem Run.gone_of_mem_deaths (run : Run program journal config) (dead : handle ∈ deaths journal) :
    handle ∉ config.world.pool ∧ ¬ config.world.roster.contains handle ∧
      ¬ InSnapshot journal handle := by
  have unheld {held : Prop} (holds : held → isHeld config.world config.frames handle) : ¬ held :=
    fun this => (run.alive_iff_isHeld.2 (holds this)).2 dead
  refine ⟨unheld fun pooled => isHeld_iff.2 (.inl pooled), unheld fun registered =>
    isHeld_iff.2 (.inr (.inl (contains_iff.1 registered))), fun inside => ?_⟩
  exact (run.alive_of_inSnapshot inside).2 dead

/-- A walk that has ended lets go of its snapshot before the work that started it goes on. -/
theorem Run.letsGo_of_ended {depth : Nat} {stop : Option Stop} (run : Run program journal config)
    (stepped : config.step? program = some (next, events)) (ended : .ended depth stop ∈ events) :
    ∃ walk caller before during dead later final,
      Underway depth walk.snapshot before during journal ∧ config.frames = .walk walk :: caller ∧
      LetsGo program .walk (walk.answer stop) caller (walk.snapshot.map Entry.handle) next dead
        later final := by
  have step := (Run.sound run).step_of_step? stepped
  obtain ⟨walk, caller, top, rfl, frames⟩ := step.of_ended ended
  obtain ⟨before, during, underway⟩ := run.underway_of_walk ⟨[], top.symm⟩
  obtain ⟨dead, later, final, going⟩ := Run.letsGo (run.step stepped) frames
  exact ⟨walk, caller, before, during, dead, later, final, underway, top, going⟩

/-- At every point of every run, the handles in the snapshots of walks that are under way are alive;
if no clearing and no walk is still letting handles go, those that are alive are the ones that the
program, the roster or such a snapshot has; no handle dies twice, no hook runs twice or for a handle
that has not died, and nobody has a handle that has died. From there on, whoever is visited is
alive, and a walk that ends lets go of its snapshot one by one and in order, while the work that
started it waits. -/
theorem lifetime_of_run (run : Run program journal config) :
    (∀ handle, InSnapshot journal handle → Alive program journal handle) ∧
    (config.Settled → ∀ handle, Alive program journal handle ↔
      Pooled config handle ∨ config.world.roster.contains handle ∨ InSnapshot journal handle) ∧
    (deaths journal).Nodup ∧
    (hooksRun journal config.frames).Nodup ∧
    (∀ handle ∈ hooksRun journal config.frames, handle ∈ deaths journal) ∧
    (∀ handle ∈ deaths journal, handle ∉ config.world.pool ∧
      ¬ config.world.roster.contains handle ∧ ¬ InSnapshot journal handle) ∧
    ∀ next events, config.step? program = some (next, events) →
      (∀ depth entry, .visited depth entry ∈ events →
        Alive program (journal ++ events) entry.handle) ∧
      ∀ depth stop, .ended depth stop ∈ events →
        ∃ walk caller before during dead later final,
          Underway depth walk.snapshot before during journal ∧
          config.frames = .walk walk :: caller ∧
          LetsGo program .walk (walk.answer stop) caller (walk.snapshot.map Entry.handle) next dead
            later final ∧
          dead.Sublist (walk.snapshot.map Entry.handle) ∧
          Meanwhile program caller next later final ∧ final.frames = caller ∧
          final.signal = walk.answer stop := by
  have deaths_nodup := run.nodup_deaths
  have starts := hookStarts_sublist_deaths journal
  refine ⟨fun _ => run.alive_of_inSnapshot, ?_, deaths_nodup, ?_, ?_,
    fun _ => run.gone_of_mem_deaths, ?_⟩
  · intro settled handle
    rw [run.alive_iff_isHeld, run.inSnapshot_iff]
    exact (Run.sound run).isHeld_iff_of_settled settled
  · exact run.hooks_perm.nodup (starts.nodup deaths_nodup)
  · intro handle mem
    exact starts.subset (run.hooks_perm.mem_iff.2 mem)
  · intro next events stepped
    refine ⟨fun depth entry visited => ?_, fun depth stop ended => ?_⟩
    · exact Run.alive_of_inSnapshot (run.step stepped) (run.inSnapshot_of_visited stepped visited)
    · obtain ⟨walk, caller, before, during, dead, later, final, underway, top, going⟩ :=
        run.letsGo_of_ended stepped ended
      exact ⟨walk, caller, before, during, dead, later, final, underway, top, going,
        going.dead_sublist, going.meanwhile⟩

end

/-- When the first walk of `reentrant` ends, its snapshot is all that keeps the handle `1` alive. -/
theorem reentrant_lifetime :
    Run reentrant (reentrant.start.advance reentrant 42 #[]).2.toList
        (reentrant.start.advance reentrant 42 #[]).1 ∧
      ¬ Pooled (reentrant.start.advance reentrant 42 #[]).1 1 ∧
      ¬ (reentrant.start.advance reentrant 42 #[]).1.world.roster.contains 1 ∧
      InSnapshot (reentrant.start.advance reentrant 42 #[]).2.toList 1 ∧
      ∃ next events, ∃ walk : Walk Nat, ∃ caller before during dead later final,
        (reentrant.start.advance reentrant 42 #[]).1.step? reentrant = some (next, events) ∧
        .ended 1 none ∈ events ∧
        Underway 1 walk.snapshot before during
          (reentrant.start.advance reentrant 42 #[]).2.toList ∧
        LetsGo reentrant .walk (.deliver .unit) caller (walk.snapshot.map Entry.handle) next dead
          later final ∧
        final.frames = caller := by
  have run := reentrant.advance_isRun 42
  obtain ⟨-, alive_iff, -, -, -, -, further⟩ := lifetime_of_run run
  have frames : (reentrant.start.advance reentrant 42 #[]).1.frames = [.walk _, .steps _] := rfl
  have settled : (reentrant.start.advance reentrant 42 #[]).1.Settled := by
    intro cause handles next there
    simp [frames] at there
  have unpooled : ¬ Pooled (reentrant.start.advance reentrant 42 #[]).1 1 := by
    rintro (pooled | ⟨handles, next, there, -⟩)
    · exact absurd pooled (by decide)
    · simp [frames] at there
  have absent : ¬ (reentrant.start.advance reentrant 42 #[]).1.world.roster.contains 1 := by decide
  have alive : Alive reentrant (reentrant.start.advance reentrant 42 #[]).2.toList 1 :=
    ⟨by decide, by decide⟩
  have inside := (((alive_iff settled 1).1 alive).resolve_left unpooled).resolve_left absent
  obtain ⟨walk, caller, before, during, dead, later, final, underway, -, going, -, -, back, -⟩ :=
    (further _ _ rfl).2 1 none (.head _)
  exact ⟨run, unpooled, absent, inside, _, _, walk, caller, before, during, dead, later, final, rfl,
    .head _, underway, going, back⟩

end Herald.Roster
