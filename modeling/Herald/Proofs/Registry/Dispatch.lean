import Herald.Proofs.Registry.Change
import Herald.Proofs.Registry.Level
import Herald.Proofs.Roster.Invariant

/-!
# One dispatch for each change

A call that sets a state is no change, and then nobody is told, or it begins one dispatch. Of a
dispatch `Told` says what its turns have been so far, and `Telling` how it stands on the machine.
Work above it does not touch it (`Step.above`), however many dispatches begin and end there, so each
step keeps this up to the one that ends the dispatch (`Telling.step`).

An observer is left out at its turn only if it was taken off the roster, and only a notification
that fails ends the dispatch early. If neither happens, all are told that were registered at the
time of the call (`dispatch_of_change`).
-/

namespace Herald.Registry

variable {α : Type}

/-! ## Turns -/

/-- The entry that a dispatch of the level notifies in an event. -/
def Event.notified? (level : Nat) : Event α → Option (Entry α)
  | .notified other _ entry _ _ _ => if other = level then some entry else none
  | _ => none

/-- The entries that were notified at a level, in order. -/
def notifiedAt (level : Nat) (journal : List (Event α)) : List (Entry α) :=
  journal.filterMap (Event.notified? level)

@[simp] theorem notifiedAt_append (level : Nat) (journal events : List (Event α)) :
    notifiedAt level (journal ++ events) = notifiedAt level journal ++ notifiedAt level events :=
  List.filterMap_append

theorem Quiet.notifiedAt_eq_nil {level : Nat} {events : List (Event α)}
    (quiet : Quiet level events) : notifiedAt level events = [] := by
  refine List.filterMap_eq_nil_iff.2 fun event mem => ?_
  cases event with
  | notified other =>
      have differs : other ≠ level := fun same => quiet _ mem (congrArg some same)
      simp [Event.notified?, differs]
  | _ => rfl

/-- An event takes an observer off the roster of the registry in one place. -/
def Event.Removes (place : Nat) : Event α → Prop
  | .noticed other (.removed _ _ _) | .noticed other (.cleared _) => other = place
  | _ => False

/-- An event is a turn in a dispatch: an observer is told who the owner is and which state was left,
or is skipped. -/
def Event.TurnOf (dispatch : Dispatch α) (owner : String) (level : Nat) (event : Event α) : Prop :=
  (∃ entry currents,
    event = .notified level dispatch.registry entry owner dispatch.source currents) ∨
  ∃ entry, event = .skipped level dispatch.registry entry

/-- The turns of a dispatch so far, of which `during` is the journal, and the entries whose turn is
still to come. -/
structure Told (origin : Dispatch α) (owner : String) (level : Nat) (during : List (Event α))
    (pending : List (Entry α)) : Prop where
  turns : ∀ event ∈ during, event.level? = some level → event.TurnOf origin owner level
  order : (notifiedAt level during ++ pending).Sublist origin.pending
  complete : (∀ event ∈ during, ¬ event.Removes origin.registry) →
    notifiedAt level during ++ pending = origin.pending

section
variable {origin : Dispatch α} {owner : String} {level : Nat} {during events : List (Event α)}
  {entry : Entry α} {pending : List (Entry α)}

theorem Told.start (origin : Dispatch α) (owner : String) (level : Nat) :
    Told origin owner level [] origin.pending :=
  ⟨List.forall_mem_nil _, List.Sublist.refl _, fun _ => rfl⟩

/-- What is no step of a dispatch changes nothing. -/
theorem Told.within (told : Told origin owner level during pending) (quiet : Quiet level events) :
    Told origin owner level (during ++ events) pending where
  turns := List.forall_mem_append.2
    ⟨told.turns, fun event mem about => absurd about (quiet event mem)⟩
  order := by
    rw [notifiedAt_append, quiet.notifiedAt_eq_nil, List.append_nil]
    exact told.order
  complete kept := by
    rw [notifiedAt_append, quiet.notifiedAt_eq_nil, List.append_nil]
    exact told.complete (List.forall_mem_append.1 kept).1

theorem Told.notify (told : Told origin owner level during (entry :: pending))
    (currents : List StateId) :
    Told origin owner level
      (during ++ [.notified level origin.registry entry owner origin.source currents]) pending where
  turns := List.forall_mem_append.2
    ⟨told.turns, List.forall_mem_singleton.2 fun _ => .inl ⟨entry, currents, rfl⟩⟩
  order := by simpa [notifiedAt, Event.notified?] using told.order
  complete kept := by
    have complete := told.complete (List.forall_mem_append.1 kept).1
    simpa [notifiedAt, Event.notified?] using complete

/-- An entry is skipped only if an observer was taken off the roster. -/
theorem Told.skip (told : Told origin owner level during (entry :: pending))
    (removed : ∃ event ∈ during, event.Removes origin.registry) :
    Told origin owner level (during ++ [.skipped level origin.registry entry]) pending where
  turns := List.forall_mem_append.2
    ⟨told.turns, List.forall_mem_singleton.2 fun _ => .inr ⟨entry, rfl⟩⟩
  order := by
    have fewer := (List.sublist_cons_self entry pending).append_left (notifiedAt level during)
    have silent : notifiedAt level [Event.skipped level origin.registry entry] = [] := rfl
    rw [notifiedAt_append, silent, List.append_nil]
    exact fewer.trans told.order
  complete kept := by
    obtain ⟨event, mem, removes⟩ := removed
    exact absurd removes ((List.forall_mem_append.1 kept).1 event mem)

end

/-! ## Registrations that stand -/

variable [DecidableEq α]

/-- A call that takes nobody off the roster leaves all registrations standing. -/
theorem isLive_edit {roster : Roster α} {edit : Edit α} {serial place : Nat}
    (kept : ¬ (Event.noticed place (roster.edit edit).2).Removes place)
    (live : roster.isLive serial) : (roster.edit edit).1.isLive serial := by
  cases edit with
  | add handle =>
      rw [Roster.edit, Roster.add]
      split
      · exact live
      · rw [Roster.isLive_iff] at live ⊢
        simp [live]
  | remove handle =>
      rw [Roster.edit, Roster.remove] at kept ⊢
      split
      · exact live
      · next found =>
        rw [found] at kept
        exact absurd rfl kept
  | clear => exact absurd rfl kept

theorem Evolves.isLive {place serial : Nat} {registry after : Registry α} {events : List (Event α)}
    (evolves : Evolves place registry events after) (kept : ∀ event ∈ events, ¬ event.Removes place)
    (live : registry.observers.isLive serial) : after.observers.isLive serial := by
  cases evolves with
  | still | accept => exact live
  | edit call => exact isLive_edit (kept _ (List.mem_singleton_self _)) live

/-- A registration stands as long as no observer is taken off the roster. -/
theorem Steps.isLive {start config : Config α} {journal : List (Event α)} {place serial : Nat}
    {registry after : Registry α} (steps : Steps start journal config)
    (here : start.world.registries[place]? = some registry)
    (there : config.world.registries[place]? = some after)
    (kept : ∀ event ∈ journal, ¬ event.Removes place)
    (live : registry.observers.isLive serial) : after.observers.isLive serial := by
  induction steps generalizing after with
  | refl =>
      cases here.symm.trans there
      exact live
  | step steps stepped ih =>
      obtain ⟨now, between, -⟩ := Steps.observers steps here
      obtain ⟨after', there', evolves⟩ := (Step.of_step? stepped).evolves between
      cases there.symm.trans there'
      obtain ⟨before, kept⟩ := List.forall_mem_append.1 kept
      exact evolves.isLive kept (ih between before)

/-! ## Dispatches of the machine -/

/-- What a dispatch answers to the work that started it. -/
def Dispatch.answer (dispatch : Dispatch α) : Option Fault → Signal
  | none => .deliver .unit
  | some fault => dispatch.pass fault

/-- A dispatch for the work in `caller` is under way: `origin` is the dispatch as it began. -/
inductive Telling (origin : Dispatch α) (owner : String) (caller : List (Frame α)) :
    List (Event α) → Config α → Prop where
  /-- The dispatch is told to go on. -/
  | between {world signal pending during} (calm : signal.fault? = none)
      (told : Told origin owner (level caller + 1) during pending) :
      Telling origin owner caller during
        ⟨world, .dispatch { origin with pending } :: caller, signal⟩
  /-- An observer is at work, with what it has started above it. -/
  | notifying {config upper observer rest pending during}
      (frames : config.frames = upper ++ .script observer origin.source rest ::
        .dispatch { origin with pending } :: caller)
      (told : Told origin owner (level caller + 1) during pending) :
      Telling origin owner caller during config
  /-- An observer has failed, and the dispatch is told of it. -/
  | failed {world observer fault pending during}
      (told : Told origin owner (level caller + 1) during pending)
      (failure : .returned (level caller + 1) observer (some fault) ∈ during) :
      Telling origin owner caller during
        ⟨world, .dispatch { origin with pending } :: caller, .raise fault⟩

/-- A step ends a dispatch for the work in `caller`, after `during` has happened. -/
inductive Ending (origin : Dispatch α) (caller : List (Frame α)) (during : List (Event α)) :
    List (Event α) → Config α → Prop where
  | intro {world fault}
      (early : fault ≠ none →
        ∃ observer why, .returned (level caller + 1) observer (some why) ∈ during)
      (complete : fault = none → (∀ event ∈ during, ¬ event.Removes origin.registry) →
        notifiedAt (level caller + 1) during = origin.pending) :
      Ending origin caller during [.ended (level caller + 1) origin.registry fault]
        ⟨world, caller, origin.answer fault⟩

/-- The observer of a dispatch that is at work is still at work after a step, or it ends there. -/
theorem Telling.step_of_notifying {origin : Dispatch α} {owner : String}
    {caller upper : List (Frame α)} {during events : List (Event α)} {world : World α}
    {signal : Signal} {next : Config α} {observer : α} {rest : Script α}
    {pending : List (Entry α)} (told : Told origin owner (level caller + 1) during pending)
    (step : Step ⟨world, upper ++ .script observer origin.source rest ::
      .dispatch { origin with pending } :: caller, signal⟩ events next) :
    Telling origin owner caller (during ++ events) next := by
  cases upper with
  | cons frame upper =>
      -- the step is one of the work above the observer
      rw [List.cons_append] at step
      obtain ⟨⟨pushed, frames⟩, -⟩ := step.above
      have told := told.within (step.quiet (by simp))
      exact .notifying (frames.trans (List.append_assoc pushed upper _).symm) told
  | nil =>
      -- the step is one of the observer itself
      have told := told.within (step.quiet (by simp))
      cases step with
      | perform code performs =>
          obtain ⟨⟨pushed, frames⟩, -⟩ := performs.above
          cases code with
          | script => exact .notifying frames told
      | scriptDone => exact .between rfl told
      | told => exact .notifying (List.nil_append _).symm told
      | scriptFault =>
          rw [level_dispatch] at told ⊢
          exact .failed told (List.mem_append_right _ (List.mem_singleton_self _))

/-- One step of a dispatch that is under way, where its registry has the owner of whom it tells, and
what was registered when it began stands if nothing has been taken off the roster since. -/
theorem Telling.step {origin : Dispatch α} {owner : String} {caller : List (Frame α)}
    {during events : List (Event α)} {config next : Config α} {registry : Registry α}
    (telling : Telling origin owner caller during config)
    (here : config.world.registries[origin.registry]? = some registry)
    (same : registry.owner = owner)
    (stands : (∀ event ∈ during, ¬ event.Removes origin.registry) →
      ∀ entry ∈ origin.pending, registry.observers.isLive entry.serial)
    (step : Step config events next) :
    Telling origin owner caller (during ++ events) next ∨
      Ending origin caller during events next := by
  subst same
  cases telling with
  | between calm told =>
      cases step with
      | perform code => cases code
      | finish _ done =>
          refine .inr (.intro (fun failed => absurd rfl failed) fun _ kept => ?_)
          rcases done with done | missing
          · obtain rfl := done
            simpa using told.complete kept
          · cases missing.symm.trans here
      | notify _ turn here' =>
          obtain rfl := turn
          cases here'.symm.trans here
          exact .inl (.notifying (List.nil_append _).symm (told.notify _))
      | skip _ turn here' gone =>
          obtain rfl := turn
          cases here'.symm.trans here
          have removed : ∃ event ∈ during, event.Removes origin.registry := by
            by_contra none
            have kept : ∀ event ∈ during, ¬ event.Removes origin.registry :=
              fun event mem removes => none ⟨event, mem, removes⟩
            exact gone (stands kept _ (told.order.subset (by simp)))
          exact .inl (.between rfl (told.skip removed))
      | abort => cases calm
  | notifying frames told =>
      obtain ⟨world, stack, signal⟩ := config
      obtain rfl : stack = _ := frames
      exact .inl (.step_of_notifying told step)
  | failed told failure =>
      cases step with
      | finish calm | notify calm | skip calm => cases calm
      | abort => exact .inr (.intro (fun _ => ⟨_, _, failure⟩) (by simp))

/-! ## From the beginning to the end -/

/-- A dispatch for the work in `caller` has just begun, with the observers that are registered. -/
inductive Begun (origin : Dispatch α) (owner : String) (caller : List (Frame α)) :
    Config α → Prop where
  | intro {world registry} (here : world.registries[origin.registry]? = some registry)
      (same : registry.owner = owner) (entries : origin.pending = registry.observers.entries) :
      Begun origin owner caller ⟨world, .dispatch origin :: caller, .proceed⟩

section
variable {origin : Dispatch α} {owner : String} {caller : List (Frame α)}
  {during events : List (Event α)} {start config next : Config α}

omit [DecidableEq α] in
theorem Begun.telling (begun : Begun origin owner caller start) :
    Telling origin owner caller [] start := by
  cases begun with
  | intro => exact .between rfl (.start origin owner _)

omit [DecidableEq α] in
theorem Telling.exists_told (telling : Telling origin owner caller during config) :
    ∃ pending, Told origin owner (level caller + 1) during pending := by
  cases telling with
  | between _ told | notifying _ told | failed told => exact ⟨_, told⟩

omit [DecidableEq α] in
theorem Telling.not_ended (telling : Telling origin owner caller during config)
    (place : Nat) (fault : Option Fault) : .ended (level caller + 1) place fault ∉ during := by
  intro mem
  obtain ⟨pending, told⟩ := telling.exists_told
  rcases told.turns _ mem rfl with ⟨_, _, same⟩ | ⟨_, same⟩ <;> cases same

/-- One step of a dispatch that is under way. -/
theorem Begun.step (begun : Begun origin owner caller start) (steps : Steps start during config)
    (telling : Telling origin owner caller during config)
    (stepped : config.step? = some (next, events)) :
    Telling origin owner caller (during ++ events) next ∨
      Ending origin caller during events next := by
  cases begun with
  | intro here same entries =>
      obtain ⟨now, there, owner', -⟩ := steps.observers here
      refine telling.step there (owner'.trans same) (fun kept entry mem => ?_)
        (Step.of_step? stepped)
      refine steps.isLive here there kept (Roster.isLive_iff.2 ?_)
      exact List.mem_map_of_mem (entries ▸ mem)

/-- A dispatch that has begun is under way as long as its end has not happened. -/
theorem Begun.telling_of_steps (begun : Begun origin owner caller start)
    (steps : Steps start during config)
    (unended : ∀ place fault, .ended (level caller + 1) place fault ∉ during) :
    Telling origin owner caller during config := by
  induction steps with
  | refl => exact begun.telling
  | step steps stepped ih =>
      have telling := ih fun place fault mem => unended place fault (List.mem_append_left _ mem)
      rcases begun.step steps telling stepped with telling | ending
      · exact telling
      · cases ending
        exact absurd (List.mem_append_right _ (List.mem_singleton_self _)) (unended _ _)

end

/-! ## From the call to its return -/

/-- A dispatch for the work in `caller` has not ended, and `during` has happened since it began with
the entries that it has to notify. -/
structure Announcing (dispatch : Dispatch α) (owner : String) (caller : List (Frame α))
    (during : List (Event α)) (config : Config α) : Prop where
  /-- The work that started it waits below. -/
  underway : ∃ upper pending, config.frames = upper ++ .dispatch { dispatch with pending } :: caller
  /-- When no observer is at work, the next one has its turn or the dispatch ends. -/
  goes : ∀ now, config.frames = .dispatch now :: caller → ∃ next event,
    config.step? = some (next, [event]) ∧ event.level? = some (level caller + 1)
  /-- The call has begun no other dispatch. -/
  single : ∀ place source target entries,
    .dispatching (level caller + 1) place source target entries ∉ during
  /-- Every notification passes the owner and the state that the call left. -/
  told : ∀ place entry other source currents,
    .notified (level caller + 1) place entry other source currents ∈ during →
      place = dispatch.registry ∧ other = owner ∧ source = dispatch.source
  /-- Those who have been told were registered at the call, and were told in order. -/
  order : (notifiedAt (level caller + 1) during).Sublist dispatch.pending
  /-- The step that ends the dispatch returns to the work that started it. It has a fault only if a
  notification failed; if it has none and nobody was taken off the roster, everyone was told. -/
  ends : ∀ place fault next,
    config.step? = some (next, [.ended (level caller + 1) place fault]) →
      place = dispatch.registry ∧ next.frames = caller ∧ next.signal = dispatch.answer fault ∧
        (fault ≠ none →
          ∃ observer why, .returned (level caller + 1) observer (some why) ∈ during) ∧
        (fault = none → (∀ event ∈ during, ¬ event.Removes dispatch.registry) →
          notifiedAt (level caller + 1) during = dispatch.pending)

/-- A dispatch on top of the stack takes a step of its own. -/
theorem Dispatch.goes {dispatch : Dispatch α} {frames : List (Frame α)} {config : Config α}
    (top : config.frames = .dispatch dispatch :: frames) :
    ∃ next event, config.step? = some (next, [event]) ∧
      event.level? = some (level frames + 1) := by
  obtain ⟨world, stack, signal⟩ := config
  obtain rfl : stack = _ := top
  have step : Step ⟨world, .dispatch dispatch :: frames, signal⟩ _ _ := .of_resume
  generalize Frame.resume world frames (.dispatch dispatch) signal = result at step
  obtain ⟨next, events⟩ := result
  refine ⟨next, ?_⟩
  rw [step.step?_eq]
  cases step with
  | perform code => cases code
  | finish | notify | skip | abort => exact ⟨_, rfl, rfl⟩

/-- A dispatch that is under way does what it should. -/
theorem Begun.announcing {origin : Dispatch α} {owner : String} {caller : List (Frame α)}
    {during : List (Event α)} {start config : Config α} (begun : Begun origin owner caller start)
    (steps : Steps start during config) (telling : Telling origin owner caller during config) :
    Announcing origin owner caller during config := by
  obtain ⟨pending, told⟩ := telling.exists_told
  refine ⟨?_, fun _ => Dispatch.goes, ?_, ?_, (List.sublist_append_left _ _).trans told.order, ?_⟩
  · cases telling with
    | between | failed => exact ⟨[], _, rfl⟩
    | @notifying _ upper observer rest _ _ frames =>
        exact ⟨upper ++ [.script observer origin.source rest], _, by simpa using frames⟩
  · intro place source target snapshot mem
    rcases told.turns _ mem rfl with ⟨_, _, same⟩ | ⟨_, same⟩ <;> cases same
  · intro place entry owner source currents mem
    rcases told.turns _ mem rfl with ⟨_, _, same⟩ | ⟨_, same⟩
    · cases same
      exact ⟨rfl, rfl, rfl⟩
    · cases same
  · intro place fault next stepped
    rcases begun.step steps telling stepped with telling | ending
    · -- an end is no turn of a dispatch that goes on
      exact absurd (List.mem_append_right _ (List.mem_singleton_self _)) (telling.not_ended _ _)
    · cases ending with
      | intro early complete => exact ⟨rfl, rfl, rfl, early, complete⟩

omit [DecidableEq α] in
/-- The work that makes a call is on top of the stack. -/
theorem Config.of_change? {config : Config α} {change : Change}
    (asks : config.change? = some change) :
    ∃ frame source action rest frames, Code frame source (action :: rest) ∧
      config = ⟨config.world, frame :: frames, .proceed⟩ ∧
      action.change? config.world = some change := by
  obtain ⟨world, stack, signal⟩ := config
  unfold Config.change? at asks
  split at asks
  · next action rest frames top told =>
    obtain ⟨rfl, rfl⟩ : stack = _ ∧ signal = _ := ⟨top, told⟩
    exact ⟨_, _, action, rest, frames, .steps _, rfl, asks⟩
  · next observer source action rest frames top told =>
    obtain ⟨rfl, rfl⟩ : stack = _ ∧ signal = _ := ⟨top, told⟩
    exact ⟨_, _, action, rest, frames, .script .., rfl, asks⟩
  · cases asks

/-- A call that sets the state that is current already does nothing else. -/
theorem Config.step?_of_refused {config : Config α} {change : Change}
    (asks : config.change? = some change) (refused : ¬ change.isAccepted) :
    config.step? = some
      (⟨config.world, config.frames.modifyHead Frame.advance, .deliver .unit⟩,
        [.unchanged (level config.frames + 1) change.place change.target]) := by
  rw [← level_modifyHead_advance]
  obtain ⟨frame, source, action, rest, frames, code, same, asks⟩ := Config.of_change? asks
  rw [same]
  exact (Step.perform code (.unchanged asks refused)).step?_eq

/-- A call that is accepted begins a dispatch, in one step. -/
theorem Config.begun_of_accepted {config : Config α} {change : Change} {registry : Registry α}
    (asks : config.change? = some change) (accepted : change.isAccepted)
    (here : config.world.registries[change.place]? = some registry) :
    ∃ next catching,
      config.step? = some (next,
        [.dispatching (level config.frames + 1) change.place change.source change.target
          registry.observers.entries]) ∧
      Begun (.begin change registry.observers.entries catching) registry.owner
        (config.frames.modifyHead Frame.advance) next := by
  rw [← level_modifyHead_advance]
  obtain ⟨frame, source, action, rest, frames, code, same, asks⟩ := Config.of_change? asks
  -- the registry has changed its states alone, so the dispatch notifies those it has now
  have there := World.put_self here (registry.accept change)
  rw [same]
  exact ⟨_, _, (Step.perform code (.accept asks accepted here)).step?_eq, .intro there rfl rfl⟩

/-- No observer of a registry in a run is registered twice. -/
theorem Run.nodup_handles {program : Program α} {journal : List (Event α)} {config : Config α}
    {place : Nat} {registry : Registry α} (fresh : program.Fresh) (run : Run program journal config)
    (here : config.world.registries[place]? = some registry) :
    registry.observers.handles.Nodup := by
  have inside : place < program.registries.length :=
    run.length_registries ▸ (List.getElem?_eq_some_iff.1 here).1
  have born := List.getElem?_eq_getElem inside
  obtain ⟨after, there, -, observers⟩ := run.observers born
  cases there.symm.trans here
  rw [observers, (fresh _ (List.mem_of_getElem? born)).2]
  exact (Roster.wellFormed_empty.after _).distinct

/-- At every point of every run, a call that sets the state of a registry that is in this state is
told to nobody. A call that sets another state begins one dispatch, to those who are registered,
none of them twice. As long as this has not ended, it is the only one that the call has begun, and
all its notifications pass the owner of the registry and the state that the call left; they go, in
order, to some of those who were registered, and to all of them in the end unless an observer was
taken off the roster or a notification failed. Whenever a notification has returned, the next one
is made or the dispatch ends. -/
theorem dispatch_of_change {program : Program α} {before : List (Event α)} {start : Config α}
    {change : Change} (fresh : program.Fresh) (run : Run program before start)
    (asks : start.change? = some change) :
    ∃ registry, start.world.registries[change.place]? = some registry ∧
      registry.current = change.source ∧
      registry.observers.handles.Nodup ∧
      (change.target = change.source →
        start.step? = some
          (⟨start.world, start.frames.modifyHead Frame.advance, .deliver .unit⟩,
            [.unchanged (level start.frames + 1) change.place change.target])) ∧
      (change.target ≠ change.source → ∃ begun catching,
        start.step? = some (begun,
          [.dispatching (level start.frames + 1) change.place change.source change.target
            registry.observers.entries]) ∧
        ∀ during config, Steps begun during config →
          (∀ place fault, .ended (level start.frames + 1) place fault ∉ during) →
          Announcing (.begin change registry.observers.entries catching) registry.owner
            (start.frames.modifyHead Frame.advance) during config) := by
  obtain ⟨frame, source, action, rest, frames, code, same, asks'⟩ := Config.of_change? asks
  obtain ⟨place, _, registry, target, _, here, _, rfl⟩ := Action.of_change? asks'
  refine ⟨_, here, rfl, Run.nodup_handles fresh run here, ?_, ?_⟩
  · intro unchanged
    refine Config.step?_of_refused asks fun accepted => ?_
    exact Change.isAccepted_iff.1 accepted unchanged.symm
  · intro changed
    have accepted := Change.isAccepted_iff.2 (Ne.symm changed)
    obtain ⟨next, catching, stepped, begun⟩ := Config.begun_of_accepted asks accepted here
    refine ⟨next, catching, stepped, fun during config steps unended => ?_⟩
    rw [← level_modifyHead_advance] at unended
    exact begun.announcing steps (begun.telling_of_steps steps unended)

/-- The second change of `relay`, up to the end of its dispatch. Meanwhile the first observer has
changed the same registry once more. -/
theorem relay_dispatch :
    Run relay (relay.run 16).2.toList (relay.run 16).1 ∧
      (relay.run 16).1.change? = some ⟨0, 1, 2⟩ ∧
      ∃ begun catching,
        (relay.run 16).1.step? = some (begun, [.dispatching 1 0 1 2 [⟨0, 0⟩, ⟨1, 1⟩]]) ∧
        changes (begun.advance 11 #[]).2.toList = [⟨0, 2, 3⟩] ∧
        Announcing (.begin ⟨0, 1, 2⟩ [⟨0, 0⟩, ⟨1, 1⟩] catching) "host" [.steps []]
          (begun.advance 11 #[]).2.toList (begun.advance 11 #[]).1 := by
  have run := relay.run_isRun 16
  have fresh : relay.Fresh := by simp [Program.Fresh, relay]
  have asks : (relay.run 16).1.change? = some ⟨0, 1, 2⟩ := rfl
  obtain ⟨registry, here, -, -, -, changed⟩ := dispatch_of_change fresh run asks
  obtain ⟨begun, catching, stepped, announcing⟩ := changed (by decide)
  cases here
  have next : (relay.run 16).1.step? =
    some ((relay.run 17).1, [.dispatching 1 0 1 2 [⟨0, 0⟩, ⟨1, 1⟩]]) := rfl
  cases stepped.symm.trans next
  have unended : ((relay.run 17).1.advance 11 #[]).2.toList.all
    (fun event => match event with | .ended 1 _ _ => false | _ => true) = true := rfl
  refine ⟨run, asks, _, catching, next, rfl, announcing _ _ (Machine.advance_steps 11 .refl) ?_⟩
  intro place fault mem
  exact Bool.false_ne_true (List.all_eq_true.1 unended _ mem)

end Herald.Registry
