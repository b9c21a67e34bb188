import Herald.Proofs.Registry.Change
import Herald.Proofs.Replay.Rounds
import Herald.Registry.Report
import Mathlib.Data.List.Basic

/-!
# A replay as a program over one registry

A replay changes its registry and gives the tracers their turns by itself. The same can be said as a
program (`Plan.program`): it registers the tracers and goes through the states, and a tracer is an
observer that does nothing when it is told, except that it removes itself at the last delivery that
the plan allows.

The machine that runs the program does what the replay does. `Mirrors` says that a world of the
machine is where a replay is, and `Follows` that the machine goes on as a replay does. There is one
lemma for each function of a replay, from a registration (`Follows.register`) over a turn
(`Follows.notify`) and the turns of a dispatch (`Follows.visit`) to the states of a plan
(`Follows.follow`). Put together they say that a replay is a run of the program, which leaves the
same registry and the same journal (`program_of_replay`).
-/

namespace Herald.Replay

open Registry (Dispatch Frame Script Signal Step Steps World)

/-! ## The program of a plan -/

namespace Plan

/-- What a tracer does at its deliveries, one batch for each. -/
def batches (plan : Plan) (number : Nat) : List (Script Nat) :=
  match plan.limit? with
  | none => []
  | some limit => List.replicate (limit - 1) [] ++ [[.on 0 (.remove number)]]

/-- A tracer that has been told a number of times. -/
def tracer (plan : Plan) (number received : Nat) : Registry.Observer Nat where
  batches := (plan.batches number).drop received

/-- The program that does what a replay does. -/
def program (plan : Plan) : Registry.Program Nat where
  registries := [{ owner := plan.owner, current := plan.initialState }]
  observers := (List.range plan.count).map fun number => (number, plan.tracer number 0)
  steps := (List.range plan.count).map (fun number => .on 0 (.add number)) ++
    plan.states.map fun state => .on 0 (.set state false)

/-- A tracer removes itself at the delivery that reaches the limit. -/
theorem batch_eq (plan : Plan) (number received : Nat) :
    ((plan.batches number).drop received).head?.getD [] =
      if plan.limit? = some (received + 1) then [.on 0 (.remove number)] else [] := by
  rw [List.head?_drop, batches]
  split
  · next unlimited => simp [unlimited]
  · next limit known =>
    have positive : limit ≠ 0 := by
      rintro rfl
      exact limit?_ne_zero known
    rw [known, List.getElem?_append, List.length_replicate]
    split
    · next early =>
      rw [if_neg (by simp; omega)]
      simp [early]
    · next late =>
      have reached : received - (limit - 1) = 0 ↔ limit = received + 1 := by omega
      simp only [List.getElem?_singleton, Option.some.injEq, reached]
      split <;> rfl

end Plan

/-! ## Journals -/

/-- What an event of the machine is in the journal of a replay. -/
def Event.ofMachine? : Registry.Event Nat → Option Event
  | .unchanged _ _ state => some (.unchanged state)
  | .dispatching _ _ source target snapshot => some (.dispatching source target snapshot.length)
  | .notified _ place entry owner source currents =>
    currents[place]?.map fun current => .delivered owner ⟨entry.handle, source, current⟩
  | .skipped _ _ entry => some (.skipped entry)
  | .ended _ _ fault => fault.map .failed
  | .noticed _ notice => some (.noticed notice)
  | .returned .. | .answered _ | .stepped .. => none

/-- Whether a tracer says in an event that it is about to leave. The machine does not know of
that. -/
def Event.isDetaching : Event → Bool
  | .detaching .. => true
  | _ => false

/-- The events of a journal that the machine knows of. -/
def known (journal : List Event) : List Event :=
  journal.filter fun event => !event.isDetaching

@[simp] theorem known_append (journal events : List Event) :
    known (journal ++ events) = known journal ++ known events :=
  List.filter_append _ _

theorem known_tell (progress : Progress) (event : Event) :
    known (progress.tell event).journal.toList =
      known progress.journal.toList ++ known [event] := by
  rw [Progress.journal_tell, known_append]

/-- The log record of an event that the registry logs. The others are logged by the tracers. -/
def Event.registryRecord? : Event → Option Trace.Record
  | .delivered .. | .detaching .. => none
  | event => some event.record

/-- The machine logs what the registry of a replay logs. -/
theorem Event.record?_eq (event : Registry.Event Nat) :
    event.record? = (Event.ofMachine? event).bind Event.registryRecord? := by
  cases event with
  | notified _ place _ _ _ currents =>
      rw [ofMachine?]
      cases currents[place]? <;> rfl
  | ended _ _ fault => cases fault <;> rfl
  | _ => rfl

theorem filterMap_registryRecord?_known (journal : List Event) :
    (known journal).filterMap Event.registryRecord? =
      journal.filterMap Event.registryRecord? := by
  rw [known, List.filterMap_filter]
  refine List.filterMap_congr fun event _ => ?_
  cases event <;> rfl

/-! ## Worlds -/

/-- A world of the machine is where a replay is: the registry is the same, and each tracer has taken
a batch for each of its deliveries. -/
structure Mirrors (plan : Plan) (progress : Progress) (world : World Nat) : Prop where
  registries : world.registries = [progress.registry]
  observers : world.observers = (List.range plan.count).map fun number =>
    (number, plan.tracer number (progress.received.getD number 0))
  size : progress.received.size = plan.count
  /-- Only tracers are registered. -/
  known : ∀ handle ∈ progress.registry.observers.handles, handle < plan.count

/-- The machine goes on as a replay does from `before` to `after`: where its world mirrors the one,
it comes to a world that mirrors the other, and it tells of the same on the way. -/
def Follows (plan : Plan) (before after : Progress) (frames : List (Frame Nat)) (signal : Signal)
    (rest : List (Frame Nat)) (answer : Signal) : Prop :=
  ∀ world, Mirrors plan before world → ∃ journal final,
    Steps ⟨world, frames, signal⟩ journal ⟨final, rest, answer⟩ ∧ Mirrors plan after final ∧
    known after.journal.toList = known before.journal.toList ++ journal.filterMap Event.ofMachine?

section
variable {plan : Plan} {before middle after progress : Progress} {world : World Nat}
  {frames between rest : List (Frame Nat)} {signal answer last : Signal}

theorem Follows.trans (first : Follows plan before middle frames signal between answer)
    (second : Follows plan middle after between answer rest last) :
    Follows plan before after frames signal rest last := by
  intro world mirrors
  obtain ⟨journal, world, steps, mirrors, told⟩ := first world mirrors
  obtain ⟨events, final, steps', mirrors', told'⟩ := second world mirrors
  refine ⟨journal ++ events, final, steps.trans steps', mirrors', ?_⟩
  rw [told', told, List.filterMap_append, List.append_assoc]

/-- The machine goes on, and the replay does not know of it. -/
theorem Follows.silent
    (steps : ∀ world, ∃ journal, Steps ⟨world, frames, signal⟩ journal ⟨world, rest, answer⟩ ∧
      journal.filterMap Event.ofMachine? = []) :
    Follows plan progress progress frames signal rest answer := by
  intro world mirrors
  obtain ⟨journal, steps, nothing⟩ := steps world
  exact ⟨journal, world, steps, mirrors, by rw [nothing, List.append_nil]⟩

theorem Mirrors.here (mirrors : Mirrors plan progress world) :
    world.registries[0]? = some progress.registry := by
  rw [mirrors.registries]
  rfl

/-- A replay may tell of anything. -/
theorem Mirrors.tell (mirrors : Mirrors plan progress world) (event : Event) :
    Mirrors plan (progress.tell event) world :=
  ⟨mirrors.registries, mirrors.observers, mirrors.size, mirrors.known⟩

/-- The world with another registry, which has no other observers than tracers. -/
theorem Mirrors.put (mirrors : Mirrors plan progress world) {registry : Registry Nat}
    (known : ∀ handle ∈ registry.observers.handles, handle < plan.count) :
    Mirrors plan { progress with registry } (world.put 0 registry) where
  registries := by
    rw [World.put, mirrors.registries]
    rfl
  observers := mirrors.observers
  size := mirrors.size
  known := known

/-- The world after a tracer has taken its next batch, and what the tracer does. -/
theorem Mirrors.takeBatch (mirrors : Mirrors plan progress world) {number : Nat}
    (inside : number < plan.count) :
    (world.takeBatch number).1.observers = ((List.range plan.count).map fun other =>
        (other, plan.tracer other
          ((progress.received.setIfInBounds number (progress.received.getD number 0 + 1)).getD
            other 0))) ∧
      (world.takeBatch number).2 =
        if plan.limit? = some (progress.received.getD number 0 + 1) then [.on 0 (.remove number)]
        else [] := by
  have found : world.observers.lookup number =
      some (plan.tracer number (progress.received.getD number 0)) := by
    rw [mirrors.observers]
    exact List.lookup_graph _ (List.mem_range.2 inside)
  simp only [World.takeBatch, found]
  constructor
  · rw [mirrors.observers, List.map_map]
    refine List.map_congr_left fun other _ => ?_
    by_cases same : other = number
    · subst same
      simp [Plan.tracer, mirrors.size, inside]
    · simp [Plan.tracer, same, Ne.symm same]
  · exact (List.append_nil _).trans (plan.batch_eq _ _)

/-! ## Registrations and removals -/

/-- A tracer is registered. -/
theorem Follows.register {number : Nat} (inside : number < plan.count) (rest : Script Nat) :
    Follows plan progress (progress.register number) [.steps (.on 0 (.add number) :: rest)] .proceed
      [.steps rest] .proceed := by
  intro world mirrors
  have calls : (Registry.Operation.add number).edit? = some (.add number) := rfl
  have added : Step ⟨world, [.steps (.on 0 (.add number) :: rest)], .proceed⟩ _ _ :=
    .perform (.steps _) (.edit calls mirrors.here)
  refine ⟨_, _, .step (.single added.step?_eq) Step.stepEnd.step?_eq,
    (mirrors.put fun handle mem => ?_).tell _, ?_⟩
  · rcases Roster.mem_handles_add.1 mem with mem | rfl
    · exact mirrors.known handle mem
    · exact inside
  · exact known_tell ..

/-- A tracer that is told removes itself. -/
theorem Follows.detach (number : Nat) (source : StateId) (frames : List (Frame Nat)) :
    Follows plan progress (progress.detach number)
      (.script number source [.on 0 (.remove number)] :: frames) .proceed frames .proceed := by
  intro world mirrors
  have calls : (Registry.Operation.remove number).edit? = some (.remove number) := rfl
  have removed : Step
      ⟨world, .script number source [.on 0 (.remove number)] :: frames, .proceed⟩ _ _ :=
    .perform (.script _ _ _) (.edit calls mirrors.here)
  refine ⟨_, _, (Machine.Steps.single removed.step?_eq).trans (Steps.script_returns ..),
    (mirrors.put fun handle mem => ?_).tell _, ?_⟩
  · refine mirrors.known handle (List.mem_of_mem_erase (b := number) ?_)
    rw [← Roster.handles_remove]
    exact mem
  · exact known_tell ..

/-- The machine does not know when a tracer is about to leave. -/
theorem Follows.detaching (number received : Nat) :
    Follows plan progress (progress.tell (.detaching number received)) frames signal frames
      signal := by
  intro world mirrors
  refine ⟨[], world, .refl, mirrors.tell _, ?_⟩
  simp [Progress.tell, known, Event.isDetaching]

/-! ## Turns -/

section
variable {dispatch : Dispatch Nat} {entry : Entry Nat}

/-- A tracer is told. -/
theorem Follows.noted (place : dispatch.registry = 0) (inside : entry.handle < plan.count)
    (live : progress.registry.observers.isLive entry.serial) (pending : List (Entry Nat))
    (frames : List (Frame Nat)) :
    Follows plan progress
      (progress.noted ⟨entry.handle, dispatch.source, progress.registry.current⟩
        (progress.received.getD entry.handle 0 + 1))
      (.dispatch { dispatch with pending := entry :: pending } :: frames) .proceed
      (.script entry.handle dispatch.source
          (if plan.limit? = some (progress.received.getD entry.handle 0 + 1) then
            [.on 0 (.remove entry.handle)] else []) ::
        .dispatch { dispatch with pending } :: frames) .proceed := by
  intro world mirrors
  obtain ⟨observers, batch⟩ := mirrors.takeBatch inside
  have here : world.registries[dispatch.registry]? = some progress.registry :=
    place ▸ mirrors.here
  have told : Step
      ⟨world, .dispatch { dispatch with pending := entry :: pending } :: frames, .proceed⟩ _ _ :=
    .notify rfl rfl here live
  rw [← batch]
  refine ⟨_, _, .single told.step?_eq, ⟨?_, observers, ?_, mirrors.known⟩, ?_⟩
  · rw [World.registries_takeBatch]
    exact mirrors.registries
  · exact Array.size_setIfInBounds.trans mirrors.size
  · rw [Progress.journal_noted, known_append]
    simp [Event.ofMachine?, World.currents, mirrors.registries, place, known, Event.isDetaching]

variable (plan) in
/-- A tracer has its turn. -/
theorem Follows.notify (place : dispatch.registry = 0)
    (live : progress.registry.observers.isLive entry.serial) (pending : List (Entry Nat))
    (frames : List (Frame Nat)) :
    ∃ after, Progress.notify plan dispatch.source entry progress = (after, .ok ()) ∧
      (entry.handle < plan.count → Follows plan progress after
        (.dispatch { dispatch with pending := entry :: pending } :: frames) .proceed
        (.dispatch { dispatch with pending } :: frames) .proceed) := by
  have notes := fun inside : entry.handle < plan.count =>
    Follows.noted place inside live pending frames
  simp only [Progress.notify, ← Plan.limit?_eq_succ_iff]
  split
  · next leaves =>
    rw [if_pos leaves] at notes
    exact ⟨_, rfl, fun inside => (notes inside).trans (.trans (.detaching _ _) (.detach _ _ _))⟩
  · next stays =>
    rw [if_neg stays] at notes
    exact ⟨_, rfl, fun inside => (notes inside).trans
      (.silent fun _ => ⟨_, .single Step.scriptDone.step?_eq, rfl⟩)⟩

/-- A tracer that is not registered any more is left out. -/
theorem Follows.skip (place : dispatch.registry = 0)
    (gone : ¬ progress.registry.observers.isLive entry.serial) (pending : List (Entry Nat))
    (frames : List (Frame Nat)) :
    Follows plan progress (progress.tell (.skipped entry))
      (.dispatch { dispatch with pending := entry :: pending } :: frames) .proceed
      (.dispatch { dispatch with pending } :: frames) .proceed := by
  intro world mirrors
  have here : world.registries[dispatch.registry]? = some progress.registry :=
    place ▸ mirrors.here
  have skipped : Step
      ⟨world, .dispatch { dispatch with pending := entry :: pending } :: frames, .proceed⟩ _ _ :=
    .skip rfl rfl here gone
  exact ⟨_, _, .single skipped.step?_eq, mirrors.tell _, known_tell ..⟩

variable (plan progress) in
/-- Those who are to be told of a change have their turns. -/
theorem Follows.visit (place : dispatch.registry = 0) (entries : List (Entry Nat))
    (frames : List (Frame Nat)) :
    ∃ after, Progress.visit (Progress.notify plan dispatch.source) entries progress =
        (after, .ok ()) ∧
      ((∀ entry ∈ entries, entry.handle < plan.count) →
        Follows plan progress after (.dispatch { dispatch with pending := entries } :: frames)
          .proceed frames (.deliver .unit)) := by
  induction entries generalizing progress with
  | nil =>
      exact ⟨progress, rfl, fun _ => .silent fun _ =>
        ⟨_, .single (Step.finish rfl (.inl rfl)).step?_eq, rfl⟩⟩
  | cons entry entries ih =>
      by_cases live : progress.registry.observers.isLive entry.serial
      · obtain ⟨middle, told, follows⟩ := Follows.notify plan place live entries frames
        obtain ⟨after, rest, follows'⟩ := ih middle
        refine ⟨after, ?_, fun inside => ?_⟩
        · simp only [Progress.visit, if_pos live, told, rest]
        · obtain ⟨first, inside⟩ := List.forall_mem_cons.1 inside
          exact (follows first).trans (follows' inside)
      · obtain ⟨after, rest, follows⟩ := ih (progress.tell (.skipped entry))
        refine ⟨after, ?_, fun inside => ?_⟩
        · simp only [Progress.visit, if_neg live, rest]
        · exact (Follows.skip place live entries frames).trans
            (follows (List.forall_mem_cons.1 inside).2)

end

/-! ## States -/

/-- A step of the program comes to its end. -/
theorem Follows.stepEnd (rest : Script Nat) :
    Follows plan progress progress [.steps rest] (.deliver .unit) [.steps rest] .proceed :=
  .silent fun _ => ⟨_, .single Step.stepEnd.step?_eq, rfl⟩

/-- A step of the program sets the state of the registry. -/
theorem Mirrors.asks (mirrors : Mirrors plan progress world) (state : StateId) :
    (Registry.Action.on 0 (.set state false)).change? world =
      some ⟨0, progress.registry.current, state⟩ := by
  simp [Registry.Action.change?, mirrors.here, Registry.Operation.target?]

/-- The registry is in the state already. -/
theorem Follows.unchanged (rest : Script Nat) :
    Follows plan progress (progress.tell (.unchanged progress.registry.current))
      [.steps (.on 0 (.set progress.registry.current false) :: rest)] .proceed [.steps rest]
      (.deliver .unit) := by
  intro world mirrors
  have refused : ¬ Registry.Change.isAccepted
      ⟨0, progress.registry.current, progress.registry.current⟩ := by
    simp [Registry.Change.isAccepted]
  have unchanged : Step
      ⟨world, [.steps (.on 0 (.set progress.registry.current false) :: rest)], .proceed⟩ _ _ :=
    .perform (.steps _) (.unchanged (mirrors.asks _) refused)
  exact ⟨_, _, .single unchanged.step?_eq, mirrors.tell _, known_tell ..⟩

/-- The registry accepts another state, and a dispatch begins. -/
theorem Follows.moved {state : StateId} (differs : state ≠ progress.registry.current)
    (rest : Script Nat) :
    Follows plan progress (progress.moved state) [.steps (.on 0 (.set state false) :: rest)]
      .proceed
      [.dispatch (.begin ⟨0, progress.registry.current, state⟩
        progress.registry.observers.entries false), .steps rest] .proceed := by
  intro world mirrors
  have accepted : Registry.Change.isAccepted ⟨0, progress.registry.current, state⟩ :=
    Registry.Change.isAccepted_iff.2 (Ne.symm differs)
  have moved : Step ⟨world, [.steps (.on 0 (.set state false) :: rest)], .proceed⟩ _ _ :=
    .perform (.steps _) (.accept (mirrors.asks state) accepted mirrors.here)
  refine ⟨_, _, .single moved.step?_eq, (mirrors.put ?_).tell _, ?_⟩
  · exact mirrors.known
  · exact known_tell ..

variable (plan progress) in
/-- The registry is taken to a state, and the tracers are told. -/
theorem Follows.change (state : StateId) (rest : Script Nat) :
    ∃ after, progress.change plan state = (after, .ok ()) ∧
      Follows plan progress after [.steps (.on 0 (.set state false) :: rest)] .proceed
        [.steps rest] .proceed := by
  by_cases same : state = progress.registry.current
  · subst same
    refine ⟨progress.tell (.unchanged progress.registry.current), ?_,
      (Follows.unchanged rest).trans (.stepEnd rest)⟩
    simp [Progress.change, Registry.accept?]
  · have place : (Dispatch.begin ⟨0, progress.registry.current, state⟩
      progress.registry.observers.entries false).registry = 0 := rfl
    obtain ⟨after, visited, follows⟩ := Follows.visit plan (progress.moved state) place
      progress.registry.observers.entries [.steps rest]
    refine ⟨after, Progress.change_of_ne same visited, fun world mirrors => ?_⟩
    have inside : ∀ entry ∈ progress.registry.observers.entries, entry.handle < plan.count :=
      fun entry mem => mirrors.known _ (List.mem_map_of_mem mem)
    exact ((Follows.moved same rest).trans ((follows inside).trans (.stepEnd rest))) world mirrors

variable (plan progress) in
/-- The registry is taken through states. -/
theorem Follows.follow (states : List StateId) :
    ∃ after, Progress.follow plan states progress = (after, .ok ()) ∧
      Follows plan progress after [.steps (states.map fun state => .on 0 (.set state false))]
        .proceed [] .proceed := by
  induction states generalizing progress with
  | nil =>
      exact ⟨progress, rfl, .silent fun _ => ⟨_, .single Step.stepsDone.step?_eq, rfl⟩⟩
  | cons state states ih =>
      obtain ⟨middle, changed, follows⟩ := Follows.change plan progress state
        (states.map fun state => .on 0 (.set state false))
      obtain ⟨after, rest, follows'⟩ := ih middle
      refine ⟨after, ?_, follows.trans follows'⟩
      simp only [Progress.follow, changed, rest]

/-! ## Whole replays -/

/-- Tracers are registered one after the other. -/
theorem Follows.registered (numbers : List Nat) (inside : ∀ number ∈ numbers, number < plan.count)
    (rest : Script Nat) :
    Follows plan progress (numbers.foldl Progress.register progress)
      [.steps (numbers.map (fun number => .on 0 (.add number)) ++ rest)] .proceed [.steps rest]
      .proceed := by
  induction numbers generalizing progress with
  | nil => exact .silent fun _ => ⟨_, .refl, rfl⟩
  | cons number numbers ih =>
      obtain ⟨first, inside⟩ := List.forall_mem_cons.1 inside
      exact (Follows.register first _).trans (ih inside)

end

/-- A replay never fails and is a run of the program of its plan, up to the end of the program: it
leaves the same registry, and in the same order it tells of the same, save that the machine does not
know when a tracer is about to leave. So it logs the same, save what the tracers log. -/
theorem program_of_replay (plan : Plan) :
    ∃ journal final, Registry.Run plan.program journal final ∧ final.frames = [] ∧
      plan.run.2 = .ok () ∧ final.world.registries = [plan.run.1.registry] ∧
      journal.filterMap Event.ofMachine? = known plan.journal ∧
      journal.filterMap Registry.Event.record? =
        plan.journal.filterMap Event.registryRecord? := by
  have fresh : Mirrors plan
      { registry := { owner := plan.owner, current := plan.initialState }
        received := Array.replicate plan.count 0 }
      ⟨plan.program.registries, plan.program.observers⟩ := by
    refine ⟨rfl, ?_, Array.size_replicate, fun handle mem => ?_⟩
    · refine List.map_congr_left fun number mem => ?_
      simp [List.mem_range.1 mem]
    · cases mem
  have begins : Follows plan _ plan.begin [.steps plan.program.steps] .proceed _ .proceed :=
    .registered (List.range plan.count) (fun number => List.mem_range.1) _
  obtain ⟨after, followed, follows⟩ := Follows.follow plan plan.begin plan.states
  obtain ⟨journal, final, steps, mirrors, told⟩ := begins.trans follows _ fresh
  have same : journal.filterMap Event.ofMachine? = known plan.journal := by
    rw [Plan.journal, Plan.run, followed, told]
    rfl
  refine ⟨journal, _, steps, rfl, ?_, ?_, same, ?_⟩
  · rw [Plan.run, followed]
  · rw [Plan.run, followed]
    exact mirrors.registries
  · rw [← filterMap_registryRecord?_known, ← same, List.filterMap_filterMap]
    exact List.filterMap_congr fun event _ => Event.record?_eq event

end Herald.Replay
