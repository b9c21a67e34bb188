import Herald.Proofs.Fault
import Herald.Proofs.Registry.Dispatch
import Herald.Registry.Report

/-!
# Faults that go back through dispatches

An observer that is notified may change a state, and the observers of that change may do so in turn:
an observer at work always stands on the dispatches in the course of which it is at work
(`Run.stacked`), and they are those of the changes that the journal shows as being announced
(`Run.announced`). When the observer fails, the innermost dispatch ends with the fault, the observer
that made the change fails with the same fault unless it catches it, and so on outwards
(`Steps.unwind`). The change that was announced last goes into the fault if it has no payload; the
other dispatches find one there and leave it.

A dispatch logs a fault only when it ends with it, so one that returns without a fault has logged
none (`Begun.unlogged`). What the records hold is said in `Trace.Record.Tells`.
-/

namespace Herald.Registry

variable {α : Type}

/-! ## Changes that are being announced -/

/-- The changes that are being announced after an event, the latest first. -/
def Event.announce (announced : List Change) : Event α → List Change
  | .dispatching _ place source target _ => ⟨place, source, target⟩ :: announced
  | .ended _ _ _ => announced.tail
  | _ => announced

/-- The changes that are being announced after a journal, the latest first. -/
def underway (journal : List (Event α)) : List Change :=
  journal.foldl Event.announce []

/-- The change that a dispatch announces. -/
def Dispatch.change (dispatch : Dispatch α) : Change :=
  ⟨dispatch.registry, dispatch.source, dispatch.target⟩

/-- The change that a frame announces. -/
def Frame.change? : Frame α → Option Change
  | .dispatch d => some d.change
  | _ => none

/-- The changes that a stack announces, the latest first. -/
def announced (frames : List (Frame α)) : List Change :=
  frames.filterMap Frame.change?

theorem Code.announced_advance {frame : Frame α} {source : Option StateId} {script : Script α}
    (code : Code frame source script) (frames : List (Frame α)) :
    announced (frame.advance :: frames) = announced (frame :: frames) := by
  cases code <;> rfl

variable [DecidableEq α]

theorem Performs.announced {world : World α} {source : Option StateId} {frames : List (Frame α)}
    {action : Action α} {events : List (Event α)} {next : Config α}
    (performs : Performs world source frames action events next) :
    announced next.frames = events.foldl Event.announce (announced frames) := by
  cases performs <;> rfl

theorem Step.announced {config next : Config α} {events : List (Event α)}
    (step : Step config events next) :
    announced next.frames = events.foldl Event.announce (announced config.frames) := by
  cases step with
  | perform code performs => rw [performs.announced, code.announced_advance]
  | @told _ _ _ _ _ value =>
      unfold Value.events
      split <;> rfl
  | stepsDone | stepEnd | stepFault | scriptDone | scriptFault | finish | notify | skip | abort =>
      rfl

/-- The journal of a run tells which changes are being announced. -/
theorem Run.announced {program : Program α} {journal : List (Event α)} {config : Config α}
    (run : Run program journal config) : announced config.frames = underway journal := by
  induction run with
  | refl => rfl
  | step _ stepped ih =>
      rw [(Step.of_step? stepped).announced, ih, underway, underway, List.foldl_append]

/-! ## The stack of a run -/

/-- The work in `frames` is that of notifications by some dispatches, the innermost first, on top of
the work in `below`. -/
inductive Nested (below : List (Frame α)) : List (Dispatch α) → List (Frame α) → Prop where
  | none : Nested below [] below
  | notification {dispatches frames observer source rest dispatch}
      (nested : Nested below dispatches frames) :
      Nested below (dispatch :: dispatches)
        (.script observer source rest :: .dispatch dispatch :: frames)

/-- What can be on the stack in a run: nothing when all work is done, or observers at work, each on
the dispatch that has notified it, or such work below a dispatch. -/
inductive Stacked : List (Frame α) → Prop where
  | done : Stacked []
  | code {left dispatches frames} (nested : Nested [.steps left] dispatches frames) : Stacked frames
  | dispatch {left dispatches frames dispatch} (nested : Nested [.steps left] dispatches frames) :
      Stacked (.dispatch dispatch :: frames)

section
variable {below middle frames : List (Frame α)} {dispatches outer : List (Dispatch α)}

omit [DecidableEq α] in
/-- What the topmost observer has left to do does not matter. -/
theorem Nested.congr {dispatch : Dispatch α} {observer : α} {source : StateId} {rest : Script α}
    (nested : Nested below (dispatch :: dispatches) (.script observer source rest :: frames))
    (other : Script α) :
    Nested below (dispatch :: dispatches) (.script observer source other :: frames) := by
  cases nested with
  | notification nested => exact .notification nested

omit [DecidableEq α] in
theorem Nested.announced (nested : Nested below dispatches frames) :
    announced frames = dispatches.map Dispatch.change ++ announced below := by
  induction nested with
  | none => rfl
  | @notification _ _ _ _ _ dispatch _ ih => exact congrArg (dispatch.change :: ·) ih

omit [DecidableEq α] in
/-- Notifications are nested in some of the dispatches and those in the others. -/
theorem Nested.split {inner : List (Dispatch α)} (nested : Nested below (inner ++ outer) frames) :
    ∃ middle, Nested middle inner frames ∧ Nested below outer middle ∧ middle <:+ frames := by
  induction inner generalizing frames with
  | nil => exact ⟨frames, .none, nested, List.suffix_refl _⟩
  | cons dispatch inner ih =>
      cases nested with
      | notification nested =>
          obtain ⟨middle, first, second, suffix⟩ := ih nested
          exact ⟨middle, .notification first, second,
            suffix.trans ((List.suffix_cons _ _).trans (List.suffix_cons _ _))⟩

end

omit [DecidableEq α] in
/-- Code that has begun an action stands where it stood. -/
theorem Nested.advance {left : Script α} {dispatches : List (Dispatch α)} {frame : Frame α}
    {frames : List (Frame α)} {source : Option StateId} {script : Script α}
    (nested : Nested [.steps left] dispatches (frame :: frames)) (code : Code frame source script) :
    ∃ left', Nested [.steps left'] dispatches (frame.advance :: frames) := by
  cases code with
  | steps =>
      cases nested with
      | none => exact ⟨_, .none⟩
  | script =>
      cases nested with
      | notification nested => exact ⟨left, .notification nested⟩

theorem Performs.stacked {world : World α} {source : Option StateId} {frames : List (Frame α)}
    {action : Action α} {events : List (Event α)} {next : Config α} {left : Script α}
    {dispatches : List (Dispatch α)} (nested : Nested [.steps left] dispatches frames)
    (performs : Performs world source frames action events next) : Stacked next.frames := by
  cases performs with
  | accept => exact .dispatch nested
  | unchanged | edit | answer | enqueue | fail | nowhere | arrived | untold => exact .code nested

theorem Step.stacked {config next : Config α} {events : List (Event α)}
    (stacked : Stacked config.frames) (step : Step config events next) : Stacked next.frames := by
  cases step with
  | perform code performs =>
      cases stacked with
      | code nested =>
          obtain ⟨left, nested⟩ := nested.advance code
          exact performs.stacked nested
      | dispatch => cases code
  | stepsDone =>
      cases stacked with
      | code nested =>
          cases nested with
          | none => exact .done
  | scriptDone | scriptFault =>
      cases stacked with
      | code nested =>
          cases nested with
          | notification nested => exact .dispatch nested
  | stepEnd | stepFault | told => exact stacked
  | finish | abort =>
      cases stacked with
      | code nested => cases nested
      | dispatch nested => exact .code nested
  | notify =>
      cases stacked with
      | code nested => cases nested
      | dispatch nested => exact .code (.notification nested)
  | skip =>
      cases stacked with
      | code nested => cases nested
      | dispatch nested => exact .dispatch nested

/-- In a run observers at work stand on the dispatches that have notified them. -/
theorem Run.stacked {program : Program α} {journal : List (Event α)} {config : Config α}
    (run : Run program journal config) : Stacked config.frames := by
  induction run with
  | refl => exact .code .none
  | step _ stepped ih => exact (Step.of_step? stepped).stacked ih

/-! ## Faults go outwards -/

/-- The fault with which an observer that is at work fails in the next step, if it does so by
itself. -/
def Config.failure? (config : Config α) : Option Fault :=
  match config.frames, config.signal with
  | .script _ source (action :: _) :: _, .proceed => action.fault? config.world (some source)
  | _, _ => none

/-- The registry whose dispatch ends in an event, and the fault with which it ends. -/
def Event.end? : Event α → Option (Nat × Option Fault)
  | .ended _ place fault => some (place, fault)
  | _ => none

/-- What has happened when a fault has gone back through some dispatches, where `passed` is the
fault that they have passed on. -/
structure Unwound (dispatches : List (Dispatch α)) (fault passed : Fault)
    (journal : List (Event α)) : Prop where
  /-- Each dispatch has logged the record that tells of the fault, and nothing else was logged. -/
  records : ∃ record : Trace.Record, record.Tells fault ∧
    journal.filterMap Event.record? = List.replicate dispatches.length record
  /-- The dispatches have ended with the fault, the innermost first. -/
  ends : journal.filterMap Event.end? =
    dispatches.map fun dispatch => (dispatch.registry, some passed)
  /-- Nobody was notified. -/
  silent : ∀ level place entry owner source currents,
    .notified level place entry owner source currents ∉ journal

omit [DecidableEq α] in
theorem Unwound.single (dispatch : Dispatch α) (observer : α) (level : Nat) {fault passed : Fault}
    (same : passed.record = fault.record) :
    Unwound [dispatch] fault passed
      [.returned level observer (some fault), .ended level dispatch.registry (some passed)] :=
  ⟨⟨_, Trace.Record.tells_iff.2 same, rfl⟩, rfl, by simp⟩

omit [DecidableEq α] in
theorem Unwound.append {inner outer : List (Dispatch α)} {fault other passed : Fault}
    {journal events : List (Event α)} (first : Unwound inner fault passed journal)
    (second : Unwound outer other passed events) (same : other.record = fault.record) :
    Unwound (inner ++ outer) fault passed (journal ++ events) where
  records := by
    obtain ⟨record, tells, logged⟩ := first.records
    obtain ⟨record', tells', logged'⟩ := second.records
    obtain rfl : record' = record := by
      rw [Trace.Record.tells_iff.1 tells, Trace.Record.tells_iff.1 tells', same]
    refine ⟨record', tells, ?_⟩
    rw [List.filterMap_append, logged, logged', List.length_append,
      List.replicate_append_replicate]
  ends := by rw [List.filterMap_append, first.ends, second.ends, List.map_append]
  silent level place entry owner source currents mem := by
    rcases List.mem_append.1 mem with mem | mem
    · exact first.silent _ _ _ _ _ _ mem
    · exact second.silent _ _ _ _ _ _ mem

omit [DecidableEq α] in
theorem Dispatch.pass_of_uncaught {dispatch : Dispatch α} (uncaught : dispatch.catching = false)
    (fault : Fault) : dispatch.pass fault = .raise fault := by
  rw [Dispatch.pass, uncaught]
  rfl

/-- An observer that has failed ends its dispatch, which passes the fault on. -/
theorem Dispatch.fails (dispatch : Dispatch α) (world : World α) (observer : α) (source : StateId)
    (rest : Script α) (below : List (Frame α)) (fault : Fault) :
    ∃ journal,
      Steps ⟨world, .script observer source rest :: .dispatch dispatch :: below, .raise fault⟩
        journal
        ⟨world, below, dispatch.pass (fault.withTransition dispatch.source dispatch.target)⟩ ∧
      Unwound [dispatch] fault (fault.withTransition dispatch.source dispatch.target) journal := by
  have returned : Step
      ⟨world, .script observer source rest :: .dispatch dispatch :: below, .raise fault⟩ _ _ :=
    .scriptFault
  have ended := (Machine.Steps.single returned.step?_eq).step Step.abort.step?_eq
  rw [level_dispatch] at ended
  exact ⟨_, ended, .single dispatch observer _ (fault.record_withTransition _ _)⟩

/-- A fault goes back through nested notifications, up to a dispatch that may catch it. -/
theorem Steps.unwind (world : World α) {below frames : List (Frame α)} {inner : List (Dispatch α)}
    {outermost first : Dispatch α} (nested : Nested below (inner ++ [outermost]) frames)
    (innermost : (inner ++ [outermost]).head? = some first)
    (passing : ∀ dispatch ∈ inner, dispatch.catching = false) (fault : Fault) :
    ∃ journal,
      Steps ⟨world, frames, .raise fault⟩ journal
        ⟨world, below, outermost.pass (fault.withTransition first.source first.target)⟩ ∧
      Unwound (inner ++ [outermost]) fault (fault.withTransition first.source first.target)
        journal := by
  induction inner generalizing frames fault first with
  | nil =>
      cases innermost
      cases nested with
      | notification nested =>
          cases nested with
          | none => exact outermost.fails world _ _ _ below fault
  | cons dispatch inner ih =>
      cases innermost
      cases nested with
      | notification nested =>
          obtain ⟨journal, steps, unwound⟩ := dispatch.fails world _ _ _ _ fault
          rw [Dispatch.pass_of_uncaught (passing dispatch (.head _))] at steps
          -- the fault has a payload from here on
          obtain ⟨second, isSecond⟩ : ∃ second, (inner ++ [outermost]).head? = some second := by
            cases inner <;> exact ⟨_, rfl⟩
          obtain ⟨events, steps', unwound'⟩ := ih nested isSecond
            (fun other mem => passing other (.tail _ mem))
            (fault.withTransition dispatch.source dispatch.target)
          rw [Fault.withTransition_withTransition] at steps' unwound'
          exact ⟨_, steps.trans steps', unwound.append unwound' (fault.record_withTransition _ _)⟩

/-! ## Returns -/

/-- The machine goes from `start` to a configuration, and the work in `caller` waits below all the
time. -/
inductive Within (caller : List (Frame α)) (start : Config α) :
    List (Event α) → Config α → Prop where
  | refl (waits : caller.length < start.frames.length) : Within caller start [] start
  | step {journal events : List (Event α)} {config next : Config α}
      (within : Within caller start journal config)
      (stepped : config.step? = some (next, events))
      (waits : caller.length < next.frames.length) :
      Within caller start (journal ++ events) next

/-- The machine goes from `start` to the point where the work in `caller` goes on. -/
inductive Returns (caller : List (Frame α)) (start : Config α) :
    List (Event α) → Config α → Prop where
  | intro {journal events : List (Event α)} {config next : Config α}
      (within : Within caller start journal config)
      (stepped : config.step? = some (next, events)) (back : next.frames = caller) :
      Returns caller start (journal ++ events) next

section
variable {origin : Dispatch α} {owner : String} {caller : List (Frame α)}
  {journal : List (Event α)} {start config : Config α}

theorem Within.steps (within : Within caller start journal config) :
    Steps start journal config := by
  induction within with
  | refl => exact .refl
  | step _ stepped _ ih => exact ih.step stepped

/-- As long as the work that started a dispatch waits, the dispatch is under way. -/
theorem Begun.telling_of_within (begun : Begun origin owner caller start)
    (within : Within caller start journal config) : Telling origin owner caller journal config := by
  induction within with
  | refl => exact begun.telling
  | step within stepped waits ih =>
      rcases begun.step within.steps ih stepped with telling | ending
      · exact telling
      · cases ending
        exact absurd waits (Nat.lt_irrefl _)

omit [DecidableEq α] in
/-- While a dispatch is under way, the work that started it waits. -/
theorem Telling.waits (telling : Telling origin owner caller journal config) :
    caller.length < config.frames.length := by
  cases telling with
  | between | failed => exact Nat.lt_succ_self _
  | notifying frames =>
      rw [frames, List.length_append, List.length_cons, List.length_cons]
      omega

omit [DecidableEq α] in
theorem Dispatch.eq_none_of_answer {dispatch : Dispatch α} {fault : Option Fault}
    (well : dispatch.answer fault = .deliver .unit) : fault = none := by
  cases fault with
  | none => rfl
  | some fault =>
      rw [Dispatch.answer, Dispatch.pass] at well
      split at well <;> cases well

/-- A dispatch that returns without a fault has ended with none. -/
theorem Begun.not_failed (begun : Begun origin owner caller start)
    (returns : Returns caller start journal config) (well : config.signal = .deliver .unit)
    (place : Nat) (fault : Fault) : .ended (level caller + 1) place (some fault) ∉ journal := by
  cases returns with
  | intro within stepped back =>
      have telling := begun.telling_of_within within
      rcases begun.step within.steps telling stepped with telling' | ending
      · have waits := telling'.waits
        rw [back] at waits
        exact absurd waits (Nat.lt_irrefl _)
      · cases ending
        obtain rfl := Dispatch.eq_none_of_answer well
        intro mem
        rcases List.mem_append.1 mem with before | last
        · exact telling.not_ended _ _ before
        · cases List.mem_singleton.1 last

/-- A dispatch that returns without a fault leaves nothing in the log when it ends. -/
theorem Begun.unlogged (begun : Begun origin owner caller start)
    (returns : Returns caller start journal config) (well : config.signal = .deliver .unit)
    (place : Nat) (fault : Option Fault)
    (ended : .ended (level caller + 1) place fault ∈ journal) :
    fault = none ∧ (Event.ended (level caller + 1) place fault : Event α).record? = none := by
  cases fault with
  | none => exact ⟨rfl, rfl⟩
  | some fault => exact absurd ended (begun.not_failed returns well place fault)

end

/-! ## Both together -/

omit [DecidableEq α] in
/-- An observer that is about to fail is on top of the stack. -/
theorem Config.of_failure? {config : Config α} {fault : Fault}
    (fails : config.failure? = some fault) :
    ∃ observer source action rest frames,
      config = ⟨config.world, .script observer source (action :: rest) :: frames, .proceed⟩ ∧
      action.fault? config.world (some source) = some fault := by
  obtain ⟨world, stack, signal⟩ := config
  unfold Config.failure? at fails
  split at fails
  · next observer source action rest frames top told =>
    obtain ⟨rfl, rfl⟩ : stack = _ ∧ signal = _ := ⟨top, told⟩
    exact ⟨observer, source, action, rest, frames, rfl, fails⟩
  · cases fails

/-- An observer that fails in a run has been notified by a dispatch. -/
theorem Run.nested_of_failure? {program : Program α} {before : List (Event α)} {start : Config α}
    {fault : Fault} (run : Run program before start) (failing : start.failure? = some fault) :
    ∃ first others left, Nested [.steps left] (first :: others) start.frames := by
  obtain ⟨observer, source, action, rest, frames, same, -⟩ := Config.of_failure? failing
  have stacked := run.stacked
  rw [same] at stacked ⊢
  cases stacked with
  | code nested =>
      cases nested with
      | notification nested => exact ⟨_, _, _, .notification nested⟩

/-- The fault of an observer goes back through nested notifications, up to a dispatch that may catch
it. -/
theorem Steps.of_failure? {start : Config α} {fault : Fault} {below : List (Frame α)}
    {inner : List (Dispatch α)} {outermost first : Dispatch α}
    (failing : start.failure? = some fault)
    (nested : Nested below (inner ++ [outermost]) start.frames)
    (innermost : (inner ++ [outermost]).head? = some first)
    (passing : ∀ dispatch ∈ inner, dispatch.catching = false) :
    ∃ journal,
      Steps start journal
        ⟨start.world, below, outermost.pass (fault.withTransition first.source first.target)⟩ ∧
      Unwound (inner ++ [outermost]) fault (fault.withTransition first.source first.target)
        journal := by
  obtain ⟨observer, source, action, rest, frames, same, fails⟩ := Config.of_failure? failing
  have failed : Step ⟨start.world, .script observer source (action :: rest) :: frames, .proceed⟩
      _ _ := .perform (.script ..) (.fail fails)
  have stepped := failed.step?_eq
  rw [same] at nested
  rw [← same] at stepped
  have nested' : Nested below (inner ++ [outermost]) (.script observer source rest :: frames) := by
    obtain ⟨others, cons⟩ := List.head?_eq_some_iff.1 innermost
    rw [cons] at nested ⊢
    exact nested.congr rest
  obtain ⟨journal, steps, unwound⟩ := Steps.unwind start.world nested' innermost passing fault
  exact ⟨_, (Machine.Steps.single stepped).trans steps, unwound⟩

/-- An observer that fails in a run does so in the course of dispatches, which are those of the
changes that the journal shows as being announced. Take any of them, `outermost`, such that no
observer in between catches the fault. The innermost puts its change into the fault if that has no
payload, and the others leave it as it is: the outermost answers with it, each has logged a record
that tells of it, from the innermost outwards, and none has notified anybody after the fault. And a
dispatch that returns without a fault leaves nothing in the log when it ends. -/
theorem fault_through_dispatches {program : Program α} {before : List (Event α)} {start : Config α}
    (run : Run program before start) :
    (∀ fault, start.failure? = some fault → ∃ dispatches left first,
      Nested [.steps left] dispatches start.frames ∧ dispatches.head? = some first ∧
      dispatches.map Dispatch.change = underway before ∧
      ∀ inner outermost outer, dispatches = inner ++ outermost :: outer →
        (∀ dispatch ∈ inner, dispatch.catching = false) →
        ∃ journal final passed, Steps start journal final ∧
          Nested [.steps left] outer final.frames ∧ final.frames <:+ start.frames ∧
          final.world = start.world ∧ final.signal = outermost.pass passed ∧
          passed = { fault with
            payload := if fault.payload = .none then .transition first.source first.target
              else fault.payload } ∧
          Unwound (inner ++ [outermost]) fault passed journal) ∧
    ∀ change, start.change? = some change → change.isAccepted →
      ∀ begun events, start.step? = some (begun, events) →
        ∀ journal final, Returns (start.frames.modifyHead Frame.advance) begun journal final →
          final.signal = .deliver .unit →
            ∀ place fault, .ended (level start.frames + 1) place fault ∈ journal →
              fault = none ∧
                (Event.ended (level start.frames + 1) place fault : Event α).record? = none := by
  constructor
  · intro fault failing
    obtain ⟨first, others, left, nested⟩ := run.nested_of_failure? failing
    refine ⟨first :: others, left, first, nested, rfl, ?_, ?_⟩
    · rw [← run.announced, nested.announced]
      exact (List.append_nil _).symm
    · intro inner outermost outer split passing
      have innermost : (inner ++ [outermost]).head? = some first := by
        cases inner <;> cases split <;> rfl
      rw [split, List.append_cons] at nested
      obtain ⟨middle, inside, outside, suffix⟩ := nested.split
      obtain ⟨journal, steps, unwound⟩ := Steps.of_failure? failing inside innermost passing
      exact ⟨journal, _, _, steps, outside, suffix, rfl, rfl, fault.withTransition_eq _ _, unwound⟩
  · intro change asks accepted begun events stepped journal final returns well
    obtain ⟨frame, source, action, rest, frames, code, same, asks'⟩ := Config.of_change? asks
    obtain ⟨place, _, registry, target, _, here, _, rfl⟩ := Action.of_change? asks'
    obtain ⟨next, catching, stepped', begun⟩ := Config.begun_of_accepted asks accepted here
    cases stepped.symm.trans stepped'
    rw [← level_modifyHead_advance]
    exact begun.unlogged returns well

/-- In the run of `relay` observer `2` fails while `peer` announces a change that observer `0` has
made when it was told of one of `host`; both dispatches log the warning. Later, the change of `host`
that observer `0` makes while another one is being announced is told to both observers. -/
theorem relay_faults :
    (Run relay (relay.run 10).2.toList (relay.run 10).1 ∧
      ∃ journal final passed, Steps (relay.run 10).1 journal final ∧
        final.signal = .deliver (.fault passed) ∧
        passed = ⟨.warn, .other, .other, "gone", .transition 5 6⟩ ∧
        journal.filterMap Event.record? =
          [⟨.warn, "Warn: gone", [("domain", .text "Other"), ("kind", .text "Other")]⟩,
            ⟨.warn, "Warn: gone", [("domain", .text "Other"), ("kind", .text "Other")]⟩] ∧
        journal.filterMap Event.end? = [(1, some passed), (0, some passed)]) ∧
    Run relay (relay.run 18).2.toList (relay.run 18).1 ∧
      ∃ journal final, Returns [.script 0 1 [], .dispatch ⟨0, 1, 2, [⟨1, 1⟩], false⟩, .steps []]
          (relay.run 19).1 journal final ∧
        (notifiedAt 2 journal).map Entry.handle = [0, 1] ∧
        ∀ place fault, .ended 2 place fault ∈ journal →
          fault = none ∧ (Event.ended 2 place fault : Event Nat).record? = none := by
  refine ⟨⟨relay.run_isRun 10, ?_⟩, relay.run_isRun 18, ?_⟩
  · have failing : (relay.run 10).1.failure? = some { severity := .warn, message := "gone" } := rfl
    obtain ⟨dispatches, left, first, nested, innermost, -, through⟩ :=
      (fault_through_dispatches (relay.run_isRun 10)).1 _ failing
    have frames : (relay.run 10).1.frames =
        [.script 2 5 [.fail { severity := .warn, message := "gone" }],
          .dispatch ⟨1, 5, 6, [], false⟩, .script 0 0 [], .dispatch ⟨0, 0, 1, [⟨1, 1⟩], true⟩,
          .steps [.on 0 (.set 2 false)]] := rfl
    rw [frames] at nested
    obtain _ | (_ | (_ | _)) := nested
    cases innermost
    obtain ⟨journal, final, passed, steps, -, -, -, told, rfl, unwound⟩ :=
      through [⟨1, 5, 6, [], false⟩] ⟨0, 0, 1, [⟨1, 1⟩], true⟩ [] rfl (by simp)
    obtain ⟨record, tells, logged⟩ := unwound.records
    obtain rfl := Trace.Record.tells_iff.1 tells
    exact ⟨journal, final, _, steps, told, rfl, logged, unwound.ends⟩
  · have asks : (relay.run 18).1.change? = some ⟨0, 2, 3⟩ := rfl
    have stepped : (relay.run 18).1.step? = some ((relay.run 19).1, _) := rfl
    have within : Within ((relay.run 18).1.frames.modifyHead Frame.advance) (relay.run 19).1 []
        (relay.run 19).1 := .refl (by decide)
    have within := (within.step rfl (by decide)).step rfl (by decide)
    have within := (within.step rfl (by decide)).step rfl (by decide)
    have returns := Returns.intro within rfl rfl
    exact ⟨_, _, returns, rfl, (fault_through_dispatches (relay.run_isRun 18)).2 _ asks (by decide)
      _ _ stepped _ _ returns rfl⟩

end Herald.Registry
