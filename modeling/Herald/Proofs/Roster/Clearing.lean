import Herald.Proofs.Roster.Lifetime
import Herald.Proofs.Roster.Numbering
import Herald.Proofs.Roster.Order

/-!
# Clearing a roster that is in use

A clearing first empties the roster, and then lets go of the handles that were registered, one by
one and in order, for the work that asked for it. Whatever happens in between happens in the hooks
of handles that die (`Meanwhile.hook_of_call?`), and these may register handles again, clear the
roster again or walk over it. A handle dies at its turn if nobody else has it then
(`Run.isHeld_iff_heldElsewhere`).

In the end only what the hooks have registered stands (`Run.clears`). A walk that was under way at
the clearing has no entry left that it could visit (`Run.silent_of_clear`), even if a hook registers
a handle of its snapshot again. `clearing_of_run` says both of every clearing.
-/

namespace Herald.Roster

variable {α : Type}

/-! ## Handles that are given up -/

/-- The program gives up one handle at a time, and is done with it before other work begins. -/
structure Brief (frames : List (Frame α)) : Prop where
  top : ∀ handles next, frames.head? = some (.letGo .release handles next) → handles.length ≤ 1
  waiting : ∀ handles next, .letGo .release handles next ∈ frames.tail → handles = []

theorem Brief.of_cons {frame : Frame α} {frames : List (Frame α)}
    (brief : Brief (frame :: frames)) : Brief frames where
  top handles next top := by
    rw [brief.waiting handles next (List.mem_of_head? top)]
    exact Nat.zero_le 1
  waiting handles next there := brief.waiting handles next (List.mem_of_mem_tail there)

theorem Code.brief_advance {frame : Frame α} {scope : List α} {script : Script α}
    (code : Code frame scope script) {frames : List (Frame α)} (brief : Brief (frame :: frames)) :
    ∀ handles next, .letGo .release handles next ∈ frame.advance :: frames → handles = [] := by
  intro handles next there
  have other : Frame.letGo .release handles next ≠ frame.advance := by
    cases code <;> exact fun same => nomatch same
  exact brief.waiting handles next ((List.mem_cons.1 there).resolve_left other)

section
variable [DecidableEq α] {program : Program α}

theorem Performs.brief {world : World α} {scope : List α} {frames : List (Frame α)}
    {action : Action α} {events : List (Event α)} {next : Config α}
    (performs : Performs world scope frames action events next)
    (done : ∀ handles next, .letGo .release handles next ∈ frames → handles = []) :
    Brief next.frames := by
  have kept : Brief frames := by
    refine ⟨fun handles next top => ?_, fun handles next there => ?_⟩
    · rw [done handles next (List.mem_of_head? top)]
      exact Nat.zero_le 1
    · exact done handles next (List.mem_of_mem_tail there)
  cases performs with
  | misaimed | releaseNothing | fail => exact kept
  | release => exact ⟨by simp, done⟩
  | answer => exact ⟨by simp, done⟩
  | add | remove | clear | forEach => exact ⟨by simp, by simpa using done⟩

/-- A step leaves no handle half given up. -/
theorem Step.brief {config next : Config α} {events : List (Event α)}
    (step : Step program config events next) (brief : Brief config.frames) : Brief next.frames := by
  have waiting := brief.waiting
  cases step with
  | perform code performs => exact performs.brief (code.brief_advance brief)
  | stepsDone | givenUp | scriptDone | scriptStop | settled | hookEnd | unlock =>
      exact brief.of_cons
  | stepEnd | stepFault | told | walkDone | walkStop => exact ⟨by simp, waiting⟩
  | visit | skip => exact ⟨by simp, by simpa using waiting⟩
  | @kept _ cause _ handles _ _ _ _ | @died _ cause _ handles _ _ _ _ _ =>
      refine ⟨fun others next top => ?_, waiting⟩
      cases top
      have short := brief.top _ _ rfl
      simp only [List.length_cons] at short
      omega
  | @diedHooked _ cause _ handles _ _ _ _ _ _ =>
      refine ⟨by simp, fun others next there => ?_⟩
      cases there with
      | tail _ there =>
          cases there with
          | head => exact List.eq_nil_of_length_eq_zero (by simpa using brief.top _ _ rfl)
          | tail _ there => exact waiting others next there

theorem Run.brief {config : Config α} {journal : List (Event α)}
    (run : Run program journal config) : Brief config.frames := by
  induction run with
  | refl => exact ⟨by simp [Program.start], by simp [Program.start]⟩
  | step run stepped ih => exact ((Run.sound run).step_of_step? stepped).brief ih

/-! ## Who else has a handle -/

/-- Somebody has a handle that a clearing is about to let go for the work in `below`: the program,
an entry that was registered since (`since` was the next number at the clearing), the snapshot of a
walk that is under way, or a clearing or a walk that has not come to the handle yet. -/
def HeldElsewhere (since : Nat) (world : World α) (below : List (Frame α)) (handle : α) : Prop :=
  handle ∈ world.pool ∨
    (∃ entry ∈ world.roster.entries, since ≤ entry.serial ∧ entry.handle = handle) ∨
    (∃ walk, .walk walk ∈ below ∧ handle ∈ walk.snapshot.map Entry.handle) ∨
    ∃ cause handles next, .letGo cause handles next ∈ below ∧
      (cause = .clearing ∨ cause = .walk) ∧ handle ∈ handles

/-- At the turn of a handle in a clearing, whoever holds it is one of those. -/
theorem Run.isHeld_iff_heldElsewhere {config : Config α} {journal : List (Event α)}
    {handle : α} {rest : List α} {next : Signal} {below : List (Frame α)} {since : Nat}
    (run : Run program journal config)
    (top : config.frames = .letGo .clearing (handle :: rest) next :: below)
    (distinct : handle ∉ rest)
    (new : ∀ entry ∈ config.world.roster.entries, since ≤ entry.serial) :
    isHeld config.world (.letGo .clearing rest next :: below) handle ↔
      HeldElsewhere since config.world below handle := by
  have sound := Run.sound run
  have brief := Run.brief run
  obtain ⟨world, stack, signal⟩ := config
  obtain rfl : stack = _ := top
  have stack : Idle (.letGo .clearing (handle :: rest) next :: below) := by
    cases sound with
    | idle stack => exact stack
  rw [isHeld_iff]
  constructor
  · rintro (pooled | registered | holds)
    · exact .inl pooled
    · obtain ⟨entry, mem, same⟩ := List.mem_map.1 registered
      exact .inr (.inl ⟨entry, mem, new entry mem, same⟩)
    · obtain ⟨frame, there, held⟩ := (holds_cons.1 holds).resolve_left distinct
      cases frame with
      | walk walk => exact .inr (.inr (.inl ⟨walk, there, held⟩))
      | letGo cause handles next =>
          have kills := stack.mayKill_of_mem (List.mem_cons_of_mem _ there)
          have held : handle ∈ handles := held
          cases cause with
          | clearing | walk => exact .inr (.inr (.inr ⟨_, _, _, there, by simp, held⟩))
          | release =>
              rw [brief.waiting _ _ there] at held
              cases held
          | argument | removal => cases kills
      | steps | script | hook | unlock => cases held
  · rintro (pooled | ⟨entry, mem, -, rfl⟩ | ⟨walk, there, held⟩ |
      ⟨cause, handles, _, there, -, held⟩)
    · exact .inl pooled
    · exact .inr (.inl (List.mem_map_of_mem mem))
    · exact .inr (.inr (holds_cons.2 (.inr ⟨_, there, held⟩)))
    · exact .inr (.inr (holds_cons.2 (.inr ⟨_, there, held⟩)))

/-! ## While a clearing lets go -/

omit [DecidableEq α] in
/-- Only hooks stand on work that lets handles go. -/
theorem Idle.hook_on_letGo {cause : Cause} {handles : List α} {next : Signal}
    {below upper : List (Frame α)} (stack : Idle (upper ++ .letGo cause handles next :: below))
    (busy : upper ≠ []) : ∃ rest handle, upper = rest ++ [.hook handle] := by
  induction upper with
  | nil => exact absurd rfl busy
  | cons frame upper ih =>
      cases upper with
      | nil =>
          cases stack with
          | hook => exact ⟨[], _, rfl⟩
          | walk _ code | letGo _ code => cases code
      | cons other upper =>
          obtain ⟨rest, handle, same⟩ := ih stack.tail (List.cons_ne_nil _ _)
          exact ⟨frame :: rest, handle, congrArg (frame :: ·) same⟩

/-- Work that lets go of handles either is done with it, and the work below goes on, or it still has
the last of them to let go. Nothing stands on top of it before the first hook begins. -/
theorem Meanwhile.of_letGo {cause : Cause} {whole : List α} {next : Signal}
    {below : List (Frame α)} {start config : Config α} {journal : List (Event α)}
    (sound : Sound start) (top : start.frames = .letGo cause whole next :: below)
    (meanwhile : Meanwhile program below start journal config) :
    (config.frames = below ∧ config.signal = next) ∨
      ∃ upper handles, config.frames = upper ++ .letGo cause handles next :: below ∧
        handles <:+ whole ∧ (journal.filterMap Event.hookStart? = [] → upper = []) := by
  induction meanwhile with
  | refl => exact .inr ⟨[], whole, top, List.suffix_rfl, fun _ => rfl⟩
  | @step journal events config after frame upper meanwhile above stepped ih =>
      have step := (meanwhile.steps.sound sound).step_of_step? stepped
      rcases ih with ⟨back, -⟩ | ⟨upper', handles, frames, rest, quiet⟩
      · -- the work below has not been waiting any more
        have longer := congrArg List.length (back.symm.trans above)
        simp at longer
        omega
      · obtain ⟨world, stack, signal⟩ := config
        obtain rfl : stack = _ := frames
        cases upper' with
        | nil =>
            cases step with
            | perform code => cases code
            | settled => exact .inl ⟨rfl, rfl⟩
            | kept | died =>
                exact .inr ⟨[], _, rfl, (List.suffix_cons _ _).trans rest, fun _ => rfl⟩
            | diedHooked =>
                refine .inr ⟨[_, _], _, rfl, (List.suffix_cons _ _).trans rest, fun none => ?_⟩
                simp [Event.hookStart?] at none
        | cons frame' upper' =>
            obtain ⟨pushed, frames⟩ := step.above
            have frames := frames.trans (List.append_assoc pushed upper' _).symm
            refine .inr ⟨pushed ++ upper', handles, frames, rest, fun none => ?_⟩
            rw [List.filterMap_append, List.append_eq_nil_iff] at none
            exact absurd (quiet none.1) (List.cons_ne_nil _ _)

/-- Work that is not told to go on before all handles have been let go leaves it to hooks to change
the roster, so none is changed before the first hook begins. -/
theorem Meanwhile.hook_of_call? {cause : Cause} {whole : List α} {value : Value}
    {below : List (Frame α)} {start config : Config α} {journal : List (Event α)} {edit : Edit α}
    (sound : Sound start) (top : start.frames = .letGo cause whole (.deliver value) :: below)
    (meanwhile : Meanwhile program below start journal config) (call : config.call? = some edit) :
    (∃ upper handle handles,
      config.frames = upper ++ .hook handle :: .letGo cause handles (.deliver value) :: below) ∧
      journal.filterMap Event.hookStart? ≠ [] := by
  have sound' := meanwhile.steps.sound sound
  obtain ⟨frame, frames, scope, action, rest, topmost, told, code, -⟩ := Config.of_call? call
  rcases meanwhile.of_letGo sound top with ⟨-, ended⟩ | ⟨upper, handles, stack, -, quiet⟩
  · rw [told] at ended
    cases ended
  · have busy : upper ≠ [] := by
      rintro rfl
      rw [stack] at topmost
      obtain rfl := (List.cons.inj topmost).1
      cases code
    have idle : Idle config.frames := by
      obtain ⟨world, stack', signal⟩ := config
      obtain rfl : stack' = _ := topmost
      exact (sound'.idle_of_usesRoster code.usesRoster).1
    rw [stack] at idle
    obtain ⟨above, handle, rfl⟩ := idle.hook_on_letGo busy
    exact ⟨⟨above, handle, handles, by rw [stack, List.append_assoc]; rfl⟩,
      fun none => busy (quiet none)⟩

/-- No call is executed before the first hook begins. -/
theorem Meanwhile.history_eq_nil {cause : Cause} {whole : List α} {value : Value}
    {below : List (Frame α)} {start config : Config α} {journal : List (Event α)}
    (sound : Sound start) (top : start.frames = .letGo cause whole (.deliver value) :: below)
    (meanwhile : Meanwhile program below start journal config)
    (unhooked : journal.filterMap Event.hookStart? = []) :
    history journal = [] ∧ config.call? = none := by
  have uncalled {config : Config α} {journal : List (Event α)}
      (meanwhile : Meanwhile program below start journal config)
      (unhooked : journal.filterMap Event.hookStart? = []) : config.call? = none := by
    cases call : config.call? with
    | none => rfl
    | some edit => exact absurd unhooked (meanwhile.hook_of_call? sound top call).2
  refine ⟨?_, uncalled meanwhile unhooked⟩
  induction meanwhile with
  | refl => rfl
  | step meanwhile above stepped ih =>
      rw [List.filterMap_append, List.append_eq_nil_iff] at unhooked
      have step := (meanwhile.steps.sound sound).step_of_step? stepped
      rw [history_append, ih unhooked.1, step.history_events, uncalled meanwhile unhooked.1]
      rfl

/-- Whatever is registered after a clearing has a number that was not given out before it. -/
theorem WellFormed.le_serial_of_mem {roster : Roster α} (formed : WellFormed roster)
    (edits : List (Edit α)) {entry : Entry α} (mem : entry ∈ (roster.clear.1.after edits).entries) :
    roster.nextSerial ≤ entry.serial := by
  by_contra older
  have old : entry.serial < roster.clear.1.nextSerial := Nat.lt_of_not_le older
  exact absurd ((formed.clear.mem_entries_after_iff edits old).1 mem).1 List.not_mem_nil

/-! ## Walks over a roster that has been cleared -/

/-- A walk makes no visit after the roster has been cleared under it. -/
theorem Run.silent_of_clear {past before during later : List (Event α)} {start config : Config α}
    {depth : Nat} {snapshot : List (Entry α)} (run : Run program past start)
    (underway : Underway depth snapshot before during past) (cleared : .clear ∈ history during)
    (steps : Steps program start later config) (goes : ∀ stop, .ended depth stop ∉ later) :
    visitsAt depth later = [] := by
  obtain ⟨origin, caller, _, _, _, rfl, -, -, walking⟩ :=
    Run.begun_of_underway (Machine.Steps.trans run steps) (underway.append goes)
  obtain ⟨pending, phase, walk⟩ := walking.exists_traversal
  refine List.filterMap_eq_nil_iff.2 fun event mem => ?_
  cases visit : event.visit? (level caller + 1) with
  | none => rfl
  | some entry =>
      -- the visit would be of an entry whose handle the clearing has expelled
      obtain ⟨earlier, rest, rfl⟩ := List.append_of_mem mem
      have there : during ++ earlier ++ [event] <+: during ++ (earlier ++ event :: rest) :=
        ⟨rest, by simp⟩
      have justified := walk.justified there
      cases event with
      | visited other entry =>
          have same : other = level caller + 1 := by
            by_contra differs
            simp [Event.visit?, differs] at visit
          have cleared' : .clear ∈ history (during ++ earlier) := by
            rw [history_append]
            exact List.mem_append_left _ cleared
          exact absurd (Edit.expels_clear _) (justified same _ cleared')
      | _ => cases visit

/-! ## Clearings -/

/-- A clearing for the work in `below` of what was registered `before`: what happens `during` it,
from where the letting go begins to where the work goes on. -/
structure Clears (program : Program α) (before : Roster α) (below : List (Frame α))
    (opened : Config α) (during : List (Event α)) (final : Config α) : Prop where
  /-- The old handles are let go one by one and in order. -/
  letsGo : ∃ dead, LetsGo program .clearing (.deliver .unit) below before.handles opened dead during
    final
  /-- A handle dies at its turn exactly if nobody else has it then. -/
  dies : ∀ early point handle rest, Meanwhile program below opened early point →
    point.frames = .letGo .clearing (handle :: rest) (.deliver .unit) :: below →
      ∃ next events, point.step? program = some (next, events) ∧
        (handle ∈ deaths events ↔ ¬ HeldElsewhere before.nextSerial point.world below handle)
  /-- Nothing is registered before the first hook begins. -/
  first : ∀ early point, Meanwhile program below opened early point →
    early.filterMap Event.hookStart? = [] →
      point.world.roster.entries = [] ∧
        ∀ next events, point.step? program = some (next, events) →
          next.world.roster.entries = []
  /-- Only hooks of handles that die change the roster. -/
  byHooks : ∀ early point edit, Meanwhile program below opened early point →
    point.call? = some edit → ∃ upper handle handles,
      point.frames = upper ++ .hook handle :: .letGo .clearing handles (.deliver .unit) :: below
  /-- No old entry is left. -/
  new : ∀ entry ∈ final.world.roster.entries, before.nextSerial ≤ entry.serial ∧
    entry ∉ before.entries
  /-- The handles that are left were registered meanwhile, and not expelled since. -/
  handles : ∀ handle, handle ∈ final.world.roster.handles ↔
    ∃ place, RegisteredAt (history during) handle place
  /-- They stand in the order in which that happened. -/
  order : final.world.roster.handles.Pairwise (RegisteredBefore (history during))
  /-- Then the work that asked for the clearing goes on. -/
  returns : final.frames = below ∧ final.signal = .deliver .unit

section
variable {past early : List (Event α)} {before : Roster α} {opened point : Config α}
  {below : List (Frame α)}

/-- What has been registered since a clearing is what the calls since then have registered. -/
theorem Meanwhile.roster_eq (sound : Sound opened) (emptied : opened.world.roster = before.clear.1)
    (meanwhile : Meanwhile program below opened early point) :
    point.world.roster = before.clear.1.after (history early) := by
  rw [meanwhile.steps.roster sound, emptied]

/-- A handle dies at its turn in a clearing exactly if nobody else has it then. -/
theorem Run.mem_deaths_iff_of_clearing (run : Run program past opened) (formed : WellFormed before)
    (emptied : opened.world.roster = before.clear.1)
    (top : opened.frames = .letGo .clearing before.handles (.deliver .unit) :: below)
    {handle : α} {rest : List α} (meanwhile : Meanwhile program below opened early point)
    (turn : point.frames = .letGo .clearing (handle :: rest) (.deliver .unit) :: below) :
    ∃ next events, point.step? program = some (next, events) ∧
      (handle ∈ deaths events ↔ ¬ HeldElsewhere before.nextSerial point.world below handle) := by
  have sound := Run.sound run
  have run' := Machine.Steps.trans run meanwhile.steps
  have distinct : handle ∉ rest := by
    rcases meanwhile.of_letGo sound top with ⟨back, -⟩ | ⟨upper, handles, stack, last, -⟩
    · exact absurd (turn.symm.trans back) (List.cons_ne_self _ _)
    · -- the work on the stack is the one that began, with the last of its handles
      have whole : [] ++ Frame.letGo .clearing (handle :: rest) (.deliver .unit) :: below =
          upper ++ .letGo .clearing handles (.deliver .unit) :: below := turn.symm.trans stack
      obtain ⟨-, same⟩ := List.append_inj' whole rfl
      obtain rfl : handle :: rest = handles := by simpa using same
      exact (List.nodup_cons.1 (formed.distinct.sublist last.sublist)).1
  have new : ∀ entry ∈ point.world.roster.entries, before.nextSerial ≤ entry.serial := by
    intro entry mem
    rw [meanwhile.roster_eq sound emptied] at mem
    exact formed.le_serial_of_mem _ mem
  have held := Run.isHeld_iff_heldElsewhere run' turn distinct new
  obtain ⟨dead, later, final, going⟩ := Run.letsGo run' turn
  cases going with
  | kept turn' other stepped =>
      cases turn.symm.trans turn'
      exact ⟨_, [], stepped, by simpa [deaths] using held.1 other⟩
  | died turn' last stepped =>
      cases turn.symm.trans turn'
      exact ⟨_, _, stepped, by simpa [deaths, Event.death?] using mt held.2 last⟩

/-- Nothing is registered after a clearing before the first hook begins. -/
theorem Meanwhile.entries_eq_nil (sound : Sound opened)
    (emptied : opened.world.roster = before.clear.1)
    (top : opened.frames = .letGo .clearing before.handles (.deliver .unit) :: below)
    (meanwhile : Meanwhile program below opened early point)
    (unhooked : early.filterMap Event.hookStart? = []) :
    point.world.roster.entries = [] ∧ ∀ next events, point.step? program = some (next, events) →
      next.world.roster.entries = [] := by
  obtain ⟨silent, uncalled⟩ := meanwhile.history_eq_nil sound top unhooked
  have empty : point.world.roster.entries = [] := by
    rw [meanwhile.roster_eq sound emptied, silent]
    rfl
  refine ⟨empty, fun next events stepped => ?_⟩
  have step := (meanwhile.steps.sound sound).step_of_step? stepped
  rw [step.roster, step.history_events, uncalled]
  exact empty

/-- The handles of a roster are let go after it has been cleared. -/
theorem Run.clears (run : Run program past opened) (formed : WellFormed before)
    (emptied : opened.world.roster = before.clear.1)
    (top : opened.frames = .letGo .clearing before.handles (.deliver .unit) :: below) :
    ∃ during final, Clears program before below opened during final := by
  have sound := Run.sound run
  obtain ⟨dead, during, final, going⟩ := Run.letsGo run top
  obtain ⟨meanwhile, returns⟩ := going.meanwhile
  have roster := meanwhile.roster_eq sound emptied
  have handles : final.world.roster.handles =
      ((empty : Roster α).after (history during)).handles := by
    rw [roster]
    exact handles_after_congr (handles_clear before) _
  refine ⟨during, final, ⟨dead, going⟩, ?_, ?_, ?_, ?_, ?_, ?_, returns⟩
  · intro early point handle rest meanwhile turn
    exact run.mem_deaths_iff_of_clearing formed emptied top meanwhile turn
  · intro early point meanwhile unhooked
    exact meanwhile.entries_eq_nil sound emptied top unhooked
  · intro early point edit meanwhile call
    exact (meanwhile.hook_of_call? sound top call).1
  · intro entry mem
    rw [roster] at mem
    have new := formed.le_serial_of_mem _ mem
    exact ⟨new, fun old => absurd (formed.below entry old) (Nat.not_lt.2 new)⟩
  · intro handle
    rw [handles, mem_handles_iff_registeredAt]
  · rw [handles]
    exact handles_after_sorted _

end

theorem Action.eq_clear_of_edit? {world : World α} {scope : List α}
    {action : Action α} (clears : action.edit? world scope = some .clear) : action = .clear := by
  cases action with
  | clear => rfl
  | add | remove => simp [Action.edit?] at clears
  | contains | size | isEmpty | «show» | release | fail | forEach => cases clears

/-- The step that clears a roster. -/
theorem Step.of_clear {config next : Config α} {events : List (Event α)}
    (step : Step program config events next) (call : config.call? = some .clear) :
    events = [.noticed (.cleared config.world.roster.size)] ∧
      next = ⟨{ config.world with roster := config.world.roster.clear.1, access := .exclusive },
        .unlock .proceed :: .letGo .clearing config.world.roster.handles (.deliver .unit) ::
          config.frames.modifyHead Frame.advance, .proceed⟩ := by
  obtain ⟨frame, below, scope, action, rest, top, told, code, clears⟩ := Config.of_call? call
  obtain rfl := Action.eq_clear_of_edit? clears
  obtain ⟨world, frames, signal⟩ := config
  obtain rfl : frames = frame :: below := top
  obtain rfl : signal = .proceed := told
  cases step.performs code with
  | clear => exact ⟨rfl, rfl⟩
  | misaimed aimed => cases aimed
  | answer reading => cases reading

/-- A clearing at any point of any run empties the roster, gives its access back, and then lets go
of the old handles in order. A handle dies at its turn exactly if nobody else has it then. Only
hooks of handles that die change the roster meanwhile, the first of them finds it empty, and in the
end it has the handles that they have registered and not expelled since, in the order in which that
happened. No walk that was under way at the clearing makes another visit. -/
theorem clearing_of_run {past : List (Event α)} {start : Config α} (run : Run program past start)
    (call : start.call? = some .clear) :
    ∃ cleared opened during final,
      start.step? program =
        some (cleared, [.noticed (.cleared start.world.roster.size)]) ∧
      cleared.step? program = some (opened, []) ∧
      cleared.world.roster = { start.world.roster with entries := [] } ∧
      opened.world = { start.world with roster := cleared.world.roster } ∧
      Clears program start.world.roster (start.frames.modifyHead Frame.advance) opened during
        final ∧
      ∀ depth snapshot before sofar, Underway depth snapshot before sofar past →
        ∀ later config, Steps program cleared later config →
          (∀ stop, .ended depth stop ∉ later) → visitsAt depth later = [] := by
  have sound := Run.sound run
  obtain ⟨frame, below, _, _, _, top, -, code, -⟩ := Config.of_call? call
  cases stepped : start.step? program with
  | none =>
      rw [sound.frames_eq_nil_of_step? stepped] at top
      cases top
  | some result =>
      obtain ⟨cleared, events⟩ := result
      obtain ⟨rfl, rfl⟩ := (sound.step_of_step? stepped).of_clear call
      have run' := run.step stepped
      have stepped' := (Run.sound run').step?_of_step (.unlock : Step program _ _ _)
      have opened := run'.step stepped'
      obtain ⟨during, final, clears⟩ := Run.clears opened run.wellFormed rfl rfl
      have free : start.world.access = .free := sound.ready frame (by rw [top]; rfl) code.usesRoster
      refine ⟨_, _, during, final, rfl, stepped', rfl, ?_, clears, ?_⟩
      · simp only [free]
        rfl
      · intro depth snapshot before sofar underway later config steps goes
        refine Run.silent_of_clear run' (underway.append ?_) ?_ steps goes
        · simp
        · simp [history, Event.edit?, Notice.edit]

end

/-- A program that clears its roster in a visit. The handle `0` was registered after the walk had
begun, so it dies, and its hook registers `2` again, which the walk still has before it. -/
def renewing : Program Nat where
  handles := [(0, some [.isEmpty, .add (.named 2)]), (1, none), (2, none)]
  steps := [.add (.named 1), .add (.named 2),
    .forEach [[.add (.named 0), .release 0, .clear]] [] false]

/-- The walk of `renewing` does not visit the handle that is registered again. -/
theorem renewing_clearing :
    Run renewing (renewing.start.advance renewing 20 #[]).2.toList
        (renewing.start.advance renewing 20 #[]).1 ∧
      (renewing.start.advance renewing 20 #[]).1.call? = some .clear ∧
      ∃ cleared opened during final before sofar,
        (renewing.start.advance renewing 20 #[]).1.step? renewing =
          some (cleared, [.noticed (.cleared 3)]) ∧
        Clears renewing ⟨[⟨0, 1⟩, ⟨1, 2⟩, ⟨2, 0⟩], 3⟩
          ((renewing.start.advance renewing 20 #[]).1.frames.modifyHead Frame.advance) opened during
          final ∧
        Underway 1 [⟨0, 1⟩, ⟨1, 2⟩] before sofar
          (renewing.start.advance renewing 20 #[]).2.toList ∧
        ∀ later config, Steps renewing cleared later config →
          (∀ stop, .ended 1 stop ∉ later) → visitsAt 1 later = [] := by
  have run := renewing.advance_isRun 20
  have walk : Frame.walk _ :: [.steps []] <:+ (renewing.start.advance renewing 20 #[]).1.frames :=
    ⟨[.script ([1]) [.clear]], rfl⟩
  obtain ⟨before, sofar, underway⟩ := run.underway_of_walk walk
  obtain ⟨cleared, opened, during, final, stepped, -, -, -, clears, silent⟩ :=
    clearing_of_run run rfl
  exact ⟨run, rfl, cleared, opened, during, final, before, sofar, stepped, clears, underway,
    silent _ _ _ _ underway⟩

end Herald.Roster
