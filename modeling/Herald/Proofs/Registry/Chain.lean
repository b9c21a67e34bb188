import Herald.Proofs.Registry.Change
import Mathlib.Data.List.Chain

/-!
# The states of a registry form a chain

The changes that one registry has accepted, nested ones included, lead from its first state from one
state to the next (`Chain`), and its two states are those of the last change (`Follows`). Every step
keeps this (`Evolves.follows`): a change is accepted in one step, in which both states are put in
place, and no other step touches either of them. In particular the end of a dispatch does not,
whether an observer failed or not.
-/

namespace Herald.Registry

variable {α : Type}

/-! ## Chains -/

/-- The changes of the registry in one place. -/
def changesAt (place : Nat) (changes : List Change) : List Change :=
  changes.filter fun change => change.place = place

@[simp] theorem changesAt_append (place : Nat) (first second : List Change) :
    changesAt place (first ++ second) = changesAt place first ++ changesAt place second :=
  List.filter_append ..

/-- Changes lead from one state to the next: the first starts from a given state, and each other one
from the state that the change before it set. None of them leaves a state as it is. -/
structure Chain (initial : StateId) (changes : List Change) : Prop where
  first : ∀ change ∈ changes.head?, change.source = initial
  linked : changes.IsChain fun earlier later => later.source = earlier.target
  proper : ∀ change ∈ changes, change.source ≠ change.target

/-- The state to which changes have led. -/
def endOf (initial : StateId) (changes : List Change) : StateId :=
  (changes.getLast?.map Change.target).getD initial

theorem Chain.nil (initial : StateId) : Chain initial [] :=
  ⟨by simp, .nil, by simp⟩

/-- A chain goes on from the state to which it has led. -/
theorem Chain.concat {initial : StateId} {changes : List Change} {change : Change}
    (chain : Chain initial changes) (source : change.source = endOf initial changes)
    (proper : change.source ≠ change.target) : Chain initial (changes ++ [change]) where
  first := by
    cases changes with
    | nil => simpa [endOf] using source
    | cons earlier changes => exact chain.first
  linked := by
    refine chain.linked.append (.singleton change) fun last isLast _ isNext => ?_
    cases isNext
    rw [source, endOf, Option.mem_def.1 isLast]
    rfl
  proper := by
    intro other mem
    rcases List.mem_append.1 mem with before | mem
    · exact chain.proper other before
    · cases List.mem_singleton.1 mem
      exact proper

/-! ## What a registry has been through -/

/-- A registry that began in a state has since accepted some changes, and its states are those of
the last of them. -/
structure Follows (initial : StateId) (own : List Change) (registry : Registry α) : Prop where
  chain : Chain initial own
  current : registry.current = endOf initial own
  previous : registry.previous = own.getLast?.map Change.source

/-- The state that a registry is in is not the one that it left. -/
theorem Follows.previous_ne {initial : StateId} {own : List Change} {registry : Registry α}
    (follows : Follows initial own registry) : registry.previous ≠ some registry.current := by
  intro same
  rw [follows.previous] at same
  obtain ⟨last, isLast, source⟩ := Option.map_eq_some_iff.1 same
  have current := follows.current
  rw [endOf, isLast] at current
  exact follows.chain.proper last (List.mem_of_getLast? isLast) (source.trans current)

theorem changesAt_eq_nil {place : Nat} {events : List (Event α)}
    (other : ∀ event ∈ events, event.changes? ≠ some place) :
    changesAt place (changes events) = [] := by
  refine List.filter_eq_nil_iff.2 fun change mem => ?_
  obtain ⟨event, there, tells⟩ := List.mem_filterMap.1 mem
  cases event with
  | dispatching _ at' =>
      cases tells
      have differs : at' ≠ place := fun same => other _ there (congrArg some same)
      simpa using differs
  | _ => cases tells

variable [DecidableEq α]

/-- A registry that changes follows the change. -/
theorem Evolves.follows {place : Nat} {registry after : Registry α} {events : List (Event α)}
    {initial : StateId} {own : List Change} (evolves : Evolves place registry events after)
    (follows : Follows initial own registry) :
    Follows initial (own ++ changesAt place (changes events)) after := by
  cases evolves with
  | still other =>
      rw [changesAt_eq_nil other, List.append_nil]
      exact follows
  | @accept level change there source accepted =>
      subst there
      have told : changesAt change.place (changes [Event.dispatching level change.place
          change.source change.target registry.observers.entries]) = [change] := by
        simp [changes, changesAt, Event.change?]
      rw [told]
      refine ⟨follows.chain.concat (source.trans follows.current) ?_, ?_, ?_⟩
      · exact Change.isAccepted_iff.1 accepted
      · simp [endOf]
      · simp
  | edit call =>
      have silent : changesAt place (changes [Event.noticed place
          (registry.observers.edit call).2]) = [] := rfl
      rw [silent, List.append_nil]
      exact ⟨follows.chain, follows.current, follows.previous⟩

/-- What a registry of a program is at any point of a run. -/
theorem Run.follows {program : Program α} {journal : List (Event α)} {config : Config α}
    {place : Nat} {initial : Registry α} (fresh : program.Fresh) (run : Run program journal config)
    (born : program.registries[place]? = some initial) :
    ∃ registry, config.world.registries[place]? = some registry ∧
      Follows initial.current (changesAt place (changes journal)) registry := by
  induction run with
  | refl =>
      have new := (fresh initial (List.mem_of_getElem? born)).1
      exact ⟨initial, born, .nil _, rfl, new⟩
  | step _ stepped ih =>
      obtain ⟨registry, here, follows⟩ := ih
      obtain ⟨after, there, evolves⟩ := (Step.of_step? stepped).evolves here
      refine ⟨after, there, ?_⟩
      rw [changes_append, changesAt_append]
      exact evolves.follows follows

/-- The changes that a registry has accepted form a chain that begins in its first state. At every
point of every run the registry is in the state to which the last of them led, and the state before
is the one that this same change left. A step in which the registry accepts no change leaves both as
they are. -/
theorem states_of_accepted {program : Program α} {accepted : List Change} {config : Config α}
    {place : Nat} {initial : Registry α} (fresh : program.Fresh)
    (reached : Accepted program accepted config)
    (born : program.registries[place]? = some initial) :
    ∃ registry, config.world.registries[place]? = some registry ∧
      Chain initial.current (changesAt place accepted) ∧
      registry.current = endOf initial.current (changesAt place accepted) ∧
      registry.previous = (changesAt place accepted).getLast?.map Change.source ∧
      registry.previous ≠ some registry.current ∧
      ∀ next events, config.step? = some (next, events) →
        (∀ change ∈ config.change?, change.isAccepted → change.place ≠ place) →
        ∃ after, next.world.registries[place]? = some after ∧
          after.current = registry.current ∧ after.previous = registry.previous := by
  obtain ⟨journal, run, rfl⟩ := reached.run
  obtain ⟨registry, here, follows⟩ := Run.follows fresh run born
  refine ⟨registry, here, follows.chain, follows.current, follows.previous, follows.previous_ne, ?_⟩
  intro next events stepped elsewhere
  obtain ⟨after, there, follows'⟩ := Run.follows fresh (run.step stepped) born
  -- the step adds no change of this registry, so what follows the changes is the same as before
  have silent : changesAt place (changes events) = [] := by
    rw [(Step.of_step? stepped).changes_events]
    refine List.filter_eq_nil_iff.2 fun change mem => ?_
    obtain ⟨asks, accepted⟩ := Option.filter_eq_some_iff.1 (Option.mem_toList.1 mem)
    simpa using elsewhere change asks accepted
  rw [changes_append, changesAt_append, silent, List.append_nil] at follows'
  exact ⟨after, there, follows'.current.trans follows.current.symm,
    follows'.previous.trans follows.previous.symm⟩

/-- In the run of `relay` the first registry accepts three changes. The dispatch of the first one
fails, and the last one is made while the second is still being announced. -/
theorem relay_states :
    Accepted relay (changes (relay.run 40).2.toList) (relay.run 40).1 ∧
      changesAt 0 (changes (relay.run 40).2.toList) = [⟨0, 0, 1⟩, ⟨0, 1, 2⟩, ⟨0, 2, 3⟩] ∧
      ∃ registry, (relay.run 40).1.world.registries[0]? = some registry ∧
        registry.current = 3 ∧ registry.previous = some 2 := by
  have reached := Run.accepted (relay.run_isRun 40)
  have own : changesAt 0 (changes (relay.run 40).2.toList) =
      [⟨0, 0, 1⟩, ⟨0, 1, 2⟩, ⟨0, 2, 3⟩] := by decide
  have fresh : relay.Fresh := by simp [Program.Fresh, relay]
  have born : relay.registries[0]? = some ⟨"host", 0, none, {}⟩ := rfl
  obtain ⟨registry, here, -, current, previous, -⟩ := states_of_accepted fresh reached born
  rw [own] at current previous
  exact ⟨reached, own, registry, here, current, previous⟩

end Herald.Registry
