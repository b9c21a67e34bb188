import Herald.Proofs.Registry.Dispatch
import Mathlib.Data.Finset.Max
import Mathlib.Data.List.Nodup

/-!
# Observers that lead a registry upwards

An observer may answer each change with a change to the next state, as long as the registry is below
a limit of its own (`climber`). If all observers of a registry do so, a call that sets a state
begins a cascade: the first observer whose limit has not been reached makes the next change before
the others have been told of this one, and its dispatch goes one level deeper. At the highest limit
the cascade turns, and the dispatches that wait go on one after the other to tell their remaining
observers, who have nothing left to do.

`Cascades` says what such a dispatch leaves in the journal, with one lemma for each way in which a
turn goes, and `Ascends` where the machine gets with it. `Climbing.ascends` is the induction, over
what is left up to the highest limit and, for each dispatch, over the observers that are still to be
told. `cascade_of_climbers` puts the call in front.
-/

namespace Herald.Registry

variable {α : Type}

/-! ## States -/

/-- The state after one that is below another: nothing overflows. -/
theorem toInt_succ {state limit : StateId} (below : state < limit) :
    (state + 1).toInt = state.toInt + 1 := by
  have less := Int32.lt_iff_toInt_lt.1 below
  have greatest := limit.toInt_lt
  have least := state.le_toInt
  rw [Int32.toInt_add, Int32.toInt_one]
  exact Int.bmod_eq_of_le (by omega) (by omega)

/-! ## What a cascade leaves in the journal -/

/-- The change that is announced with an event: the level of its dispatch, the place of the registry
and both states. -/
def Event.opening? : Event α → Option (Nat × Nat × Int × Int)
  | .dispatching level place source target _ => some (level, place, source.toInt, target.toInt)
  | _ => none

/-- The changes that are announced, in order. -/
def openings (journal : List (Event α)) : List (Nat × Nat × Int × Int) :=
  journal.filterMap Event.opening?

/-- What an observer is told with an event, by a dispatch of the level: the place of the registry,
the entry of the observer, the owner and the state that was left. -/
def Event.delivery? (level : Nat) : Event α → Option (Nat × Entry α × String × Int)
  | .notified other place entry owner source _ =>
    if other = level then some (place, entry, owner, source.toInt) else none
  | _ => none

/-- What observers are told by dispatches of a level, in order. -/
def deliveriesAt (level : Nat) (journal : List (Event α)) : List (Nat × Entry α × String × Int) :=
  journal.filterMap (Event.delivery? level)

/-- Whether an observer is told something with an event. -/
def Event.isNotified : Event α → Bool
  | .notified .. => true
  | _ => false

@[simp] theorem openings_append (journal events : List (Event α)) :
    openings (journal ++ events) = openings journal ++ openings events :=
  List.filterMap_append

@[simp] theorem deliveriesAt_append (level : Nat) (journal events : List (Event α)) :
    deliveriesAt level (journal ++ events) =
      deliveriesAt level journal ++ deliveriesAt level events :=
  List.filterMap_append

@[simp] theorem deliveriesAt_notified (level other place : Nat) (entry : Entry α) (owner : String)
    (source : StateId) (currents : List StateId) (journal : List (Event α)) :
    deliveriesAt level (.notified other place entry owner source currents :: journal) =
      if other = level then (place, entry, owner, source.toInt) :: deliveriesAt level journal
      else deliveriesAt level journal := by
  by_cases same : other = level <;> simp [deliveriesAt, Event.delivery?, same]

@[simp] theorem deliveriesAt_returned (level other : Nat) (observer : α) (fault : Option Fault)
    (journal : List (Event α)) :
    deliveriesAt level (.returned other observer fault :: journal) = deliveriesAt level journal :=
  rfl

@[simp] theorem deliveriesAt_dispatching (level other place : Nat) (source target : StateId)
    (snapshot : List (Entry α)) (journal : List (Event α)) :
    deliveriesAt level (.dispatching other place source target snapshot :: journal) =
      deliveriesAt level journal := rfl

/-- A registry by what stays the same while it changes states: its place, its owner and its
roster. -/
structure Setting (α : Type) where
  place : Nat
  owner : String
  roster : Roster α

/-- What entries are told of a change that left a state. -/
def Setting.deliveries (setting : Setting α) (entries : List (Entry α)) (source : Int) :
    List (Nat × Entry α × String × Int) :=
  entries.map fun entry => (setting.place, entry, setting.owner, source)

/-- The changes from a state to the next one and so on, each announced one level deeper than the one
before. -/
def ascent (place depth : Nat) (low : Int) (rise : Nat) : List (Nat × Nat × Int × Int) :=
  (List.range rise).map fun k => (depth + k, place, low + k, low + k + 1)

theorem ascent_succ (place depth : Nat) (low : Int) (rise : Nat) :
    ascent place depth low (rise + 1) =
      (depth, place, low, low + 1) :: ascent place (depth + 1) (low + 1) rise := by
  have shifted : ∀ k < rise, depth + (k + 1) = depth + 1 + k ∧
      low + ((k : Int) + 1) = low + 1 + k := fun k _ => by omega
  simpa [ascent, List.range_succ_eq_map] using shifted

/-- What is told at a level by a dispatch at `depth` of a change that left `source`, if `pending`
are still to be told of it, and `rise` more changes lead from the state `low` to the next states,
each announced one level deeper than the one before. -/
def Setting.due (setting : Setting α) (depth : Nat) (source : Int) (pending : List (Entry α))
    (low : Int) (rise level : Nat) : List (Nat × Entry α × String × Int) :=
  if level = depth then
    setting.deliveries pending source
  else if depth < level ∧ level ≤ depth + rise then
    setting.deliveries setting.roster.entries (low + (level - depth - 1 : Nat))
  else
    []

theorem Setting.due_self (setting : Setting α) (depth : Nat) (source : Int)
    (pending : List (Entry α)) (low : Int) (rise : Nat) :
    setting.due depth source pending low rise depth = setting.deliveries pending source :=
  if_pos rfl

theorem Setting.due_next (setting : Setting α) (depth : Nat) (source : Int)
    (pending : List (Entry α)) (low : Int) {rise k : Nat} (less : k < rise) :
    setting.due depth source pending low rise (depth + 1 + k) =
      setting.deliveries setting.roster.entries (low + k) := by
  have index : depth + 1 + k - depth - 1 = k := by omega
  rw [Setting.due, if_neg (by omega), if_pos (by omega), index]

/-- The journal of a dispatch that goes on, up to its end. -/
structure Cascades (setting : Setting α) (depth : Nat) (source : Int) (pending : List (Entry α))
    (low : Int) (rise : Nat) (journal : List (Event α)) : Prop where
  opened : openings journal = ascent setting.place (depth + 1) low rise
  told : ∀ level, deliveriesAt level journal = setting.due depth source pending low rise level
  count : journal.countP Event.isNotified = pending.length + setting.roster.size * rise

section
variable {setting : Setting α} {depth : Nat} {source : StateId} {entry : Entry α}
  {pending : List (Entry α)} {currents : List StateId} {low high : Int} {rise : Nat}
  {journal inner : List (Event α)}

/-- A dispatch ends when all have been told. -/
theorem Cascades.done (setting : Setting α) (depth : Nat) (source low : Int)
    (fault : Option Fault) :
    Cascades setting depth source [] low 0 [.ended depth setting.place fault] where
  opened := rfl
  told level := by
    unfold Setting.due
    split
    · rfl
    · rw [if_neg (by omega)]
      rfl
  count := rfl

/-- An observer that has reached its limit does nothing. -/
theorem Cascades.quiet (rest : Cascades setting depth source.toInt pending low rise journal) :
    Cascades setting depth source.toInt (entry :: pending) low rise
      (.notified depth setting.place entry setting.owner source currents ::
        .returned depth entry.handle none :: journal) where
  opened := rest.opened
  told level := by
    have told := rest.told level
    rw [deliveriesAt_notified, deliveriesAt_returned, told]
    by_cases here : level = depth
    · simp [Setting.due, here, Setting.deliveries]
    · simp [Setting.due, here, Ne.symm here]
  count := by
    rw [List.countP_cons_of_pos rfl, List.countP_cons_of_neg Bool.false_ne_true, rest.count,
      List.length_cons]
    omega

/-- An observer that has not reached its limit makes the next change, and the rest are told when the
dispatch of that change is over. -/
theorem Cascades.climb {state : StateId} (next : state.toInt + 1 = (state + 1).toInt)
    (inside : Cascades setting (depth + 1) state.toInt setting.roster.entries (state.toInt + 1) rise
      inner)
    (rest : Cascades setting depth source.toInt pending high 0 journal) :
    Cascades setting depth source.toInt (entry :: pending) state.toInt (rise + 1)
      (.notified depth setting.place entry setting.owner source currents ::
        .dispatching (depth + 1) setting.place state (state + 1) setting.roster.entries ::
          (inner ++ .returned depth entry.handle none :: journal)) where
  opened := by
    have apart : openings (.notified depth setting.place entry setting.owner source currents ::
        .dispatching (depth + 1) setting.place state (state + 1) setting.roster.entries ::
          (inner ++ .returned depth entry.handle none :: journal)) =
        (depth + 1, setting.place, state.toInt, (state + 1).toInt) ::
          (openings inner ++ openings journal) := congrArg _ List.filterMap_append
    rw [apart, inside.opened, rest.opened, ← next, ascent_succ]
    exact congrArg _ (List.append_nil _)
  told level := by
    rw [deliveriesAt_notified, deliveriesAt_dispatching, deliveriesAt_append,
      deliveriesAt_returned, inside.told level, rest.told level]
    by_cases here : level = depth
    · subst here
      simp [Setting.due, Setting.deliveries]
    · by_cases deeper : level = depth + 1
      · subst deeper
        simp [Setting.due]
      · -- a level further down is one of the dispatch inside
        have outside : ¬ (depth < level ∧ level ≤ depth + 0) := by omega
        simp only [Setting.due, if_neg here, if_neg deeper, if_neg (Ne.symm here), if_neg outside,
          List.append_nil]
        by_cases within : depth + 1 < level ∧ level ≤ depth + 1 + rise
        · rw [if_pos within, if_pos (by omega)]
          congr 1
          omega
        · rw [if_neg within, if_neg (by omega)]
  count := by
    rw [List.countP_cons_of_pos rfl, List.countP_cons_of_neg Bool.false_ne_true,
      List.countP_append, List.countP_cons_of_neg Bool.false_ne_true, inside.count, rest.count,
      List.length_cons, Roster.size, Nat.mul_succ]
    omega

end

/-! ## Turns of the machine -/

/-- An observer that answers each change with a change to the next state, below a limit. -/
def climber (place : Nat) (limit : StateId) : Observer α where
  always := [.on place (.advance limit)]

variable [DecidableEq α]

/-- A registry is in a state, and all its observers climb, each up to a limit of its own. -/
structure Climbing (setting : Setting α) (limit : α → StateId) (state : StateId)
    (world : World α) : Prop where
  registry : ∃ registry, world.registries[setting.place]? = some registry ∧
    registry.owner = setting.owner ∧ registry.observers = setting.roster ∧
    registry.current = state
  observers : ∀ handle ∈ setting.roster.handles,
    world.observers.lookup handle = some (climber setting.place (limit handle))

/-- An observer without batches stays as it is when a batch is taken off a queue. -/
theorem World.lookup_takeBatch {world : World α} {handle : α} {observer : Observer α} (name : α)
    (found : world.observers.lookup handle = some observer) (empty : observer.batches = []) :
    (world.takeBatch name).1.observers.lookup handle = some observer := by
  unfold World.takeBatch
  split
  · exact found
  · obtain ⟨batches, always⟩ := observer
    obtain rfl : batches = [] := empty
    generalize world.observers = observers at found
    induction observers with
    | nil => cases found
    | cons pair observers ih =>
        obtain ⟨other, waiting⟩ := pair
        by_cases same : handle = other
        · subst same
          obtain rfl : waiting = ⟨[], always⟩ := by simpa using found
          by_cases named : handle = name <;> simp [named]
        · have different : (handle == other) = false := beq_false_of_ne same
          simp only [List.lookup_cons, different] at found
          have ih := ih found
          by_cases named : other = name
          · subst named
            simpa [List.lookup_cons, different] using ih
          · simpa [named, List.lookup_cons, different] using ih

section
variable {setting : Setting α} {limit : α → StateId} {state : StateId} {world : World α}
  {entry : Entry α}

theorem Climbing.takeBatch (climbing : Climbing setting limit state world) (name : α) :
    Climbing setting limit state (world.takeBatch name).1 where
  registry := by
    rw [World.registries_takeBatch]
    exact climbing.registry
  observers handle mem := World.lookup_takeBatch name (climbing.observers handle mem) rfl

/-- What an observer that climbs does at its turn. -/
theorem Climbing.script_eq (climbing : Climbing setting limit state world)
    (mem : entry ∈ setting.roster.entries) :
    (world.takeBatch entry.handle).2 = [.on setting.place (.advance (limit entry.handle))] := by
  have found := climbing.observers entry.handle (List.mem_map_of_mem mem)
  simp [World.takeBatch, found, climber]

/-- The registry in the next state, in which all its observers climb as before. -/
theorem Climbing.accept (climbing : Climbing setting limit state world) {registry : Registry α}
    (here : world.registries[setting.place]? = some registry) (change : Change) :
    Climbing setting limit change.target (world.put setting.place (registry.accept change)) where
  registry := by
    obtain ⟨other, here', owner, observers, -⟩ := climbing.registry
    cases here.symm.trans here'
    exact ⟨_, World.put_self here _, owner, observers, rfl⟩
  observers := climbing.observers

/-- An observer has its turn. -/
theorem Climbing.notify (climbing : Climbing setting limit state world)
    (mem : entry ∈ setting.roster.entries) {dispatch : Dispatch α}
    (place : dispatch.registry = setting.place) (pending : List (Entry α))
    (frames : List (Frame α)) :
    ∃ after, Climbing setting limit state after ∧
      Steps ⟨world, .dispatch { dispatch with pending := entry :: pending } :: frames, .proceed⟩
        [.notified (level frames + 1) setting.place entry setting.owner dispatch.source
          world.currents]
        ⟨after, .script entry.handle dispatch.source
            [.on setting.place (.advance (limit entry.handle))] ::
          .dispatch { dispatch with pending } :: frames, .proceed⟩ := by
  obtain ⟨registry, here, owner, observers, -⟩ := climbing.registry
  have live : registry.observers.isLive entry.serial := by
    rw [observers, Roster.isLive_iff]
    exact List.mem_map_of_mem mem
  refine ⟨_, climbing.takeBatch entry.handle, ?_⟩
  rw [← owner, ← climbing.script_eq mem, ← place]
  rw [← place] at here
  have step : Step ⟨world, .dispatch { dispatch with pending := entry :: pending } :: frames,
    .proceed⟩ _ _ := .notify rfl rfl here live
  exact .single step.step?_eq

/-- An observer that has reached its limit does nothing. -/
theorem Climbing.arrived (climbing : Climbing setting limit state world) {bound : StateId}
    (reached : ¬ state < bound) (observer : α) (source : StateId) (frames : List (Frame α)) :
    Steps ⟨world, .script observer source [.on setting.place (.advance bound)] :: frames, .proceed⟩
      [] ⟨world, .script observer source [] :: frames, .deliver .unit⟩ := by
  obtain ⟨registry, here, -, -, rfl⟩ := climbing.registry
  exact .single (Step.perform (.script ..) (.arrived here reached)).step?_eq

/-- An observer that has not reached its limit makes the next change, and a dispatch of it
begins. -/
theorem Climbing.advance (climbing : Climbing setting limit state world) {bound : StateId}
    (below : state < bound) (observer : α) (source : StateId) (frames : List (Frame α)) :
    ∃ after, Climbing setting limit (state + 1) after ∧
      Steps ⟨world, .script observer source [.on setting.place (.advance bound)] :: frames,
          .proceed⟩
        [.dispatching (level frames + 1) setting.place state (state + 1) setting.roster.entries]
        ⟨after, .dispatch ⟨setting.place, state, state + 1, setting.roster.entries, false⟩ ::
          .script observer source [] :: frames, .proceed⟩ := by
  obtain ⟨registry, here, -, observers, rfl⟩ := climbing.registry
  have asks : (Action.on setting.place (.advance bound)).change? world =
      some ⟨setting.place, registry.current, registry.current + 1⟩ := by
    simp [Action.change?, here, Operation.target?, below]
  have accepted : Change.isAccepted ⟨setting.place, registry.current, registry.current + 1⟩ := by
    refine Change.isAccepted_iff.2 fun same => ?_
    have same : registry.current.toInt = (registry.current + 1).toInt := congrArg Int32.toInt same
    have next := toInt_succ below
    omega
  have step : Step ⟨world, .script observer source [.on setting.place (.advance bound)] :: frames,
    .proceed⟩ _ _ := .perform (.script ..) (.accept asks accepted here)
  rw [← observers]
  exact ⟨_, climbing.accept here ⟨_, _, _⟩, .single step.step?_eq⟩

end

/-! ## Dispatches of the machine -/

/-- A dispatch goes on to its end, and then the work that started it goes on. The registry stays in
its state if nobody who is still to be told climbs any further, and is at the top in the end
otherwise. -/
inductive Ascends (setting : Setting α) (limit : α → StateId) (top : StateId)
    (dispatch : Dispatch α) (caller : List (Frame α)) (state : StateId) (world : World α) :
    Prop where
  | intro {journal final high rise}
      (steps : Steps ⟨world, .dispatch dispatch :: caller, .proceed⟩ journal
        ⟨final, caller, .deliver .unit⟩)
      (climbing : Climbing setting limit high final)
      (risen : high.toInt = state.toInt + (rise : Nat))
      (cascades : Cascades setting (level caller + 1) dispatch.source.toInt dispatch.pending
        state.toInt rise journal)
      (still : (∀ entry ∈ dispatch.pending, ¬ state < limit entry.handle) → high = state)
      (peak : (∃ entry ∈ dispatch.pending, state < limit entry.handle) → high = top)

section
variable {setting : Setting α} {limit : α → StateId} {top state : StateId} {world : World α}
  {entry : Entry α} {pending : List (Entry α)} {caller : List (Frame α)} {dispatch : Dispatch α}

theorem Ascends.done (climbing : Climbing setting limit state world)
    (place : dispatch.registry = setting.place) :
    Ascends setting limit top { dispatch with pending := [] } caller state world := by
  have step : Step ⟨world, .dispatch { dispatch with pending := [] } :: caller, .proceed⟩ _ _ :=
    .finish rfl (.inl rfl)
  refine .intro (.single step.step?_eq) climbing (Int.add_zero _).symm ?_ (fun _ => rfl) (by simp)
  rw [place]
  exact .done setting _ _ _ none

/-- An observer that has reached its limit leaves the rest to the others. -/
theorem Ascends.quiet (climbing : Climbing setting limit state world)
    (mem : entry ∈ setting.roster.entries) (place : dispatch.registry = setting.place)
    (reached : ¬ state < limit entry.handle)
    (rest : ∀ world, Climbing setting limit state world →
      Ascends setting limit top { dispatch with pending } caller state world) :
    Ascends setting limit top { dispatch with pending := entry :: pending } caller state world := by
  obtain ⟨after, climbing', notified⟩ := climbing.notify mem place pending caller
  obtain ⟨steps, climbing'', risen, cascades, still, peak⟩ := rest after climbing'
  have silent := climbing'.arrived reached entry.handle dispatch.source
    (.dispatch { dispatch with pending } :: caller)
  have returned := Steps.script_returns after entry.handle dispatch.source
    (.dispatch { dispatch with pending } :: caller)
  rw [level_dispatch] at returned
  refine .intro (notified.trans (silent.trans (returned.trans steps))) climbing'' risen
    cascades.quiet ?_ ?_
  · exact fun none => still fun other mem => none other (.tail _ mem)
  · rintro ⟨other, mem, below⟩
    rcases List.mem_cons.1 mem with rfl | mem
    · exact absurd below reached
    · exact peak ⟨other, mem, below⟩

omit [DecidableEq α] in
/-- A dispatch that tells all observers of the next state leads to the top. -/
theorem eq_top_of_below {entries : List (Entry α)} {high : StateId}
    (le_top : ∀ entry ∈ entries, limit entry.handle ≤ top)
    (attained : ∀ _ ∈ entries, ∃ best ∈ entries,
      limit best.handle = top)
    (mem : entry ∈ entries) (below : state < limit entry.handle)
    (still : (∀ entry ∈ entries, ¬ state + 1 < limit entry.handle) →
      high = state + 1)
    (peak : (∃ entry ∈ entries, state + 1 < limit entry.handle) → high = top) :
    high = top := by
  by_cases more : ∃ other ∈ entries, state + 1 < limit other.handle
  · exact peak more
  · -- the next state is the top already
    obtain ⟨best, there, same⟩ := attained entry mem
    have arrived : ¬ state + 1 < top := fun higher => more ⟨best, there, same ▸ higher⟩
    have bound := Int32.le_iff_toInt_le.1 (le_top entry mem)
    have next := toInt_succ below
    rw [Int32.lt_iff_toInt_lt] at below arrived
    have same : (state + 1).toInt = top.toInt := by omega
    exact (still fun other mem higher => more ⟨other, mem, higher⟩).trans (Int32.toInt_inj.1 same)

/-- An observer that has not reached its limit begins a dispatch of its own, which leads to the top.
The rest have nothing left to do. -/
theorem Ascends.climb (climbing : Climbing setting limit state world)
    (le_top : ∀ entry ∈ setting.roster.entries, limit entry.handle ≤ top)
    (attained : ∀ _ ∈ setting.roster.entries, ∃ best ∈ setting.roster.entries,
      limit best.handle = top)
    (mem : entry ∈ setting.roster.entries) (subset : pending ⊆ setting.roster.entries)
    (place : dispatch.registry = setting.place) (below : state < limit entry.handle)
    (inside : ∀ caller world, Climbing setting limit (state + 1) world →
      Ascends setting limit top ⟨setting.place, state, state + 1, setting.roster.entries, false⟩
        caller (state + 1) world)
    (rest : ∀ world, Climbing setting limit top world →
      Ascends setting limit top { dispatch with pending } caller top world) :
    Ascends setting limit top { dispatch with pending := entry :: pending } caller state world := by
  have next := toInt_succ below
  obtain ⟨after, climbing', notified⟩ := climbing.notify mem place pending caller
  -- the change of the observer, and the dispatch that announces it
  obtain ⟨raised, climbing', advanced⟩ := climbing'.advance below entry.handle dispatch.source
    (.dispatch { dispatch with pending } :: caller)
  obtain @⟨_, middle, _, _, steps, climbing', risen, cascades, still, peak⟩ := inside
    (.script entry.handle dispatch.source [] :: .dispatch { dispatch with pending } :: caller)
    raised climbing'
  obtain rfl := eq_top_of_below le_top attained mem below still peak
  -- the rest of this dispatch
  have returned := Steps.script_returns middle entry.handle dispatch.source
    (.dispatch { dispatch with pending } :: caller)
  obtain @⟨_, _, _, rise', steps', after', risen', cascades', still', -⟩ := rest middle climbing'
  obtain rfl := still' fun other mem => Int32.not_lt.2 (le_top other (subset mem))
  obtain rfl : rise' = 0 := by omega
  rw [next] at risen cascades
  rw [level_script, level_dispatch] at cascades
  rw [level_dispatch] at advanced returned
  refine .intro (notified.trans (advanced.trans (steps.trans (returned.trans steps')))) after' ?_
    (cascades.climb next.symm cascades') (fun none => ?_) (fun _ => rfl)
  · omega
  · exact absurd below (none entry (.head _))

omit [DecidableEq α] in
/-- The state that a dispatch leads to is the greatest of the state that it begins in and the
limits of those who are told. -/
theorem greatest_of_ascent {entries : List (Entry α)} {high : StateId}
    (le_top : ∀ entry ∈ entries, limit entry.handle ≤ top)
    (attained : ∀ _ ∈ entries, ∃ best ∈ entries,
      limit best.handle = top)
    (still : (∀ entry ∈ entries, ¬ state < limit entry.handle) → high = state)
    (peak : (∃ entry ∈ entries, state < limit entry.handle) → high = top) :
    state ≤ high ∧ (∀ entry ∈ entries, limit entry.handle ≤ high) ∧
      (high = state ∨ ∃ entry ∈ entries, high = limit entry.handle) := by
  by_cases more : ∃ entry ∈ entries, state < limit entry.handle
  · obtain ⟨entry, mem, below⟩ := more
    obtain ⟨best, there, best_eq⟩ := attained entry mem
    obtain rfl := peak ⟨entry, mem, below⟩
    exact ⟨Int32.le_trans (Int32.le_of_lt below) (le_top entry mem), le_top,
      .inr ⟨best, there, best_eq.symm⟩⟩
  · have reached : ∀ entry ∈ entries, ¬ state < limit entry.handle :=
      fun entry mem below => more ⟨entry, mem, below⟩
    obtain rfl := still reached
    exact ⟨Int32.le_refl _, fun entry mem => Int32.not_lt.1 (reached entry mem), .inl rfl⟩

/-- Every dispatch goes on to its end while all observers climb. -/
theorem Climbing.ascends (le_top : ∀ entry ∈ setting.roster.entries, limit entry.handle ≤ top)
    (attained : ∀ _ ∈ setting.roster.entries, ∃ best ∈ setting.roster.entries,
      limit best.handle = top)
    (subset : pending ⊆ setting.roster.entries) (place : dispatch.registry = setting.place)
    (climbing : Climbing setting limit state world) :
    Ascends setting limit top { dispatch with pending } caller state world := by
  -- less is left up to the top on each level, and on a level the observers get fewer
  obtain ⟨left, enough⟩ : ∃ left : Nat, top.toInt ≤ state.toInt + left :=
    ⟨(top.toInt - state.toInt).toNat, by omega⟩
  induction left using Nat.strongRecOn generalizing dispatch pending caller state world with
  | ind left ih =>
      induction pending generalizing state world with
      | nil => exact .done climbing place
      | cons entry pending ih' =>
          obtain ⟨mem, subset⟩ := List.cons_subset.1 subset
          by_cases below : state < limit entry.handle
          · have bound := Int32.le_iff_toInt_le.1 (le_top entry mem)
            have less := Int32.lt_iff_toInt_lt.1 below
            have next := toInt_succ below
            refine .climb climbing le_top attained mem subset place below ?_ ?_
            · intro caller world climbing
              have place' : Dispatch.registry
                  ⟨setting.place, state, state + 1, setting.roster.entries, false⟩ =
                setting.place := rfl
              exact ih (left - 1) (by omega) (List.Subset.refl _) place' climbing (by omega)
            · exact fun world climbing => ih' subset climbing (by omega)
          · exact .quiet climbing mem place below fun world climbing => ih' subset climbing enough

/-- Of the limits of entries one is the greatest. -/
theorem exists_top (entries : List (Entry α)) (limit : α → StateId) :
    ∃ top, (∀ entry ∈ entries, limit entry.handle ≤ top) ∧
      ∀ _ ∈ entries, ∃ best ∈ entries, limit best.handle = top := by
  rcases entries.eq_nil_or_concat with rfl | ⟨others, last, rfl⟩
  · exact ⟨0, by simp, by simp⟩
  · obtain ⟨best, there, greatest⟩ := (others.concat last).toFinset.exists_max_image
      (fun entry => (limit entry.handle).toInt) ⟨last, by simp⟩
    have mem := List.mem_toFinset.1 there
    refine ⟨limit best.handle, fun entry mem => ?_, fun _ _ => ⟨best, mem, rfl⟩⟩
    exact Int32.le_iff_toInt_le.2 (greatest entry (List.mem_toFinset.2 mem))

end

/-- What a call that sets a state leads to if each observer of the registry climbs up to a limit of
its own: `rise` more changes, each of them by an observer and in the dispatch of the one before. -/
structure Cascaded (start : Config α) (change : Change) (registry : Registry α)
    (limit : α → StateId) (journal : List (Event α)) (final : Config α) (rise : Nat) : Prop where
  steps : Steps start journal final
  /-- The call returns, and has no fault. -/
  returned : final.frames = start.frames.modifyHead Frame.advance ∧ final.signal = .deliver .unit
  /-- The registry is in the greatest of the state and the limits. -/
  greatest : ∃ after, final.world.registries[change.place]? = some after ∧
    change.target ≤ after.current ∧
    (∀ handle ∈ registry.observers.handles, limit handle ≤ after.current) ∧
    (after.current = change.target ∨
      ∃ handle ∈ registry.observers.handles, after.current = limit handle) ∧
    after.current.toInt = change.target.toInt + rise
  /-- The change of the call is made, then the changes to the next states one by one, and no
  others. -/
  opened : openings journal =
    (level start.frames + 1, change.place, change.source.toInt, change.target.toInt) ::
      ascent change.place (level start.frames + 2) change.target.toInt rise
  /-- The dispatch of the call tells each observer once, in the order of the roster. -/
  told : deliveriesAt (level start.frames + 1) journal =
    Setting.deliveries ⟨change.place, registry.owner, registry.observers⟩
      registry.observers.entries change.source.toInt
  /-- So does the dispatch of each of the other changes. -/
  toldOfNext : ∀ k < rise, deliveriesAt (level start.frames + 2 + k) journal =
    Setting.deliveries ⟨change.place, registry.owner, registry.observers⟩
      registry.observers.entries (change.target.toInt + k)
  /-- Nothing else is told to anyone. -/
  count : journal.countP Event.isNotified = registry.observers.size * (1 + rise)

/-- A call sets another state of a registry, and each observer of the registry climbs up to a limit
of its own: the call returns, and the registry has gone on to the greatest of the state and the
limits then. All changes on the way have been told to all observers. -/
theorem cascade_of_climbers {program : Program α} {before : List (Event α)} {start : Config α}
    {change : Change} {registry : Registry α} {limit : α → StateId} (fresh : program.Fresh)
    (run : Run program before start) (asks : start.change? = some change)
    (differs : change.target ≠ change.source)
    (here : start.world.registries[change.place]? = some registry)
    (climbs : ∀ handle ∈ registry.observers.handles,
      start.world.observers.lookup handle = some (climber change.place (limit handle))) :
    registry.observers.handles.Nodup ∧
      ∃ journal final rise, Cascaded start change registry limit journal final rise := by
  refine ⟨Run.nodup_handles fresh run here, ?_⟩
  obtain ⟨top, le_top, attained⟩ := exists_top registry.observers.entries limit
  have accepted := Change.isAccepted_iff.2 (Ne.symm differs)
  obtain ⟨frame, source, action, rest, frames, code, same, asks⟩ := Config.of_change? asks
  obtain ⟨world, stack, signal⟩ := start
  obtain ⟨rfl, rfl⟩ : stack = frame :: frames ∧ signal = .proceed := by simpa using same
  have levels : level (frame :: frames) = level frames :=
    (level_modifyHead_advance (frame :: frames)).symm.trans (code.level_advance frames)
  -- the change of the call, and the dispatch that announces it
  have step : Step ⟨world, frame :: frames, .proceed⟩ _ _ :=
    .perform code (.accept asks accepted here)
  rw [code.level_advance, ← levels] at step
  have begins : Climbing ⟨change.place, registry.owner, registry.observers⟩ limit registry.current
      world := ⟨⟨registry, here, rfl, rfl, rfl⟩, climbs⟩
  have place : (Dispatch.begin change registry.observers.entries action.catching).registry =
    change.place := rfl
  have ascends : Ascends ⟨change.place, registry.owner, registry.observers⟩ limit top
      (.begin change registry.observers.entries action.catching) (frame.advance :: frames)
      change.target (world.put change.place (registry.accept change)) :=
    Climbing.ascends le_top attained (List.Subset.refl _) place (begins.accept here change)
  obtain @⟨journal, final, high, rise, steps, climbing, risen, cascades, still, peak⟩ := ascends
  obtain ⟨after, there, -, -, rfl⟩ := climbing.registry
  rw [code.level_advance, ← levels] at cascades
  obtain ⟨above, limits, attained⟩ := greatest_of_ascent le_top attained still peak
  refine ⟨_, _, rise, (Machine.Steps.single step.step?_eq).trans steps, ⟨rfl, rfl⟩,
    ⟨after, there, above, ?_, ?_, risen⟩, ?_, ?_, fun k less => ?_, ?_⟩
  · simpa [Roster.handles] using limits
  · simpa [Roster.handles] using attained
  · exact congrArg _ cascades.opened
  · exact (cascades.told _).trans (Setting.due_self ..)
  · exact (cascades.told _).trans (Setting.due_next _ _ _ _ _ less)
  · refine (List.countP_append ..).trans ?_
    rw [cascades.count, Nat.mul_add, Nat.mul_one]
    exact Nat.zero_add _

/-- Three observers that climb, and a call that sets a state below the limits of all of them. -/
def ladder : Program Nat where
  registries := [{ owner := "host", current := 3 }]
  observers := [(0, climber 0 4), (1, climber 0 2), (2, climber 0 6)]
  steps := [.on 0 (.add 0), .on 0 (.add 1), .on 0 (.add 2), .on 0 (.set 1 false)]

/-- The call of `ladder` that sets a state leads from `1` to `6`: the first observer climbs up to
`4`, the third one from there, and the second one finds nothing left to do. -/
theorem ladder_cascade :
    ladder.Fresh ∧ Run ladder (ladder.run 6).2.toList (ladder.run 6).1 ∧
      (ladder.run 6).1.change? = some ⟨0, 3, 1⟩ ∧
      ∃ registry journal final rise,
        (ladder.run 6).1.world.registries[0]? = some registry ∧
        registry.observers.handles = [0, 1, 2] ∧
        Cascaded (ladder.run 6).1 ⟨0, 3, 1⟩ registry (fun handle => [4, 2, 6].getD handle 0)
          journal final rise := by
  have fresh : ladder.Fresh := by simp [Program.Fresh, ladder]
  have run := ladder.run_isRun 6
  have asks : (ladder.run 6).1.change? = some ⟨0, 3, 1⟩ := rfl
  have climbs : ∀ handle ∈ [0, 1, 2], (ladder.run 6).1.world.observers.lookup handle =
      some (climber 0 ([4, 2, 6].getD handle 0)) := by
    simp only [List.forall_mem_cons]
    exact ⟨rfl, rfl, rfl, List.forall_mem_nil _⟩
  obtain ⟨-, journal, final, rise, cascaded⟩ :=
    cascade_of_climbers fresh run asks (by decide) rfl climbs
  exact ⟨fresh, run, asks, _, journal, final, rise, rfl, rfl, cascaded⟩

end Herald.Registry
