import Herald.Replay.Run
import Herald.Roster.Lemmas

/-!
# What the tracers of a replay are told

A replay goes in rounds. Each move from one state to a different one is told to the tracers in the
order of their numbers. All of them have then been told equally often, so all of them leave in the
same round, each in the middle of it, or none does.

`Partway` is what holds inside a round when the first few tracers have had their turns, with
`Partway.notify` for one turn and `Partway.visit` for the whole round. `Standing` is what holds
between two rounds: a state is no move (`Standing.unchanged`), a move that nobody hears of
(`Standing.unheard`) or one that all tracers are told of (`Standing.heard`), and `Standing.follow`
is the induction over the states. Together they give the whole report of a replay
(`Plan.replay_eq`).
-/

namespace Herald.Replay

/-! ## Moves -/

/-- The moves of somebody who goes through states: the pairs of neighbours that differ. -/
def moves (source : StateId) (states : List StateId) : List (StateId × StateId) :=
  ((source :: states).zip states).filter fun move => move.1 ≠ move.2

theorem moves_cons_self (source : StateId) (states : List StateId) :
    moves source (source :: states) = moves source states := by
  simp [moves]

theorem moves_cons_of_ne {source target : StateId} (changed : source ≠ target)
    (states : List StateId) :
    moves source (target :: states) = (source, target) :: moves target states := by
  simp [moves, changed]

namespace Plan

/-- The number of tracers. -/
def count (plan : Plan) : Nat :=
  plan.observers.toNat

/-- The moves of a replay. -/
def moves (plan : Plan) : List (StateId × StateId) :=
  Replay.moves plan.initialState plan.states

/-- The number of deliveries with which a tracer leaves, if there is one that it can reach. It looks
at the limit of the plan only after it has been told, so zero is no limit. -/
def limit? (plan : Plan) : Option Nat :=
  (plan.detachAfter.map UInt64.toNat).filter fun limit => limit ≠ 0

/-- What the tracers hear of some moves when each has been told a number of times before. -/
def heard (plan : Plan) (told : Nat) (moves : List (StateId × StateId)) :
    List (StateId × StateId) :=
  match plan.limit? with
  | none => moves
  | some limit => moves.take (limit - told)

/-- The deliveries of one round. -/
def round (plan : Plan) (move : StateId × StateId) : List Delivery :=
  (List.range plan.count).map fun number => ⟨number, move.1, move.2⟩

/-- A tracer that has just been told compares with the limit of the plan. -/
theorem limit?_eq_succ_iff {plan : Plan} {told : Nat} :
    plan.limit? = some (told + 1) ↔ plan.detachAfter.map UInt64.toNat = some (told + 1) := by
  simp only [limit?, Option.filter_eq_some_iff]
  simp

theorem limit?_ne_zero {plan : Plan} : plan.limit? ≠ some 0 := by
  simp [limit?, Option.filter_eq_some_iff]

@[simp] theorem heard_nil (plan : Plan) (told : Nat) : plan.heard told [] = [] := by
  unfold heard
  split <;> simp

/-- Nothing is heard after the limit. -/
theorem heard_of_limit {plan : Plan} {told : Nat} (reached : plan.limit? = some told)
    (moves : List (StateId × StateId)) : plan.heard told moves = [] := by
  simp [heard, reached]

theorem heard_cons {plan : Plan} {told : Nat} (within : ∀ limit ∈ plan.limit?, told < limit)
    (move : StateId × StateId) (moves : List (StateId × StateId)) :
    plan.heard told (move :: moves) = move :: plan.heard (told + 1) moves := by
  unfold heard
  split
  · rfl
  · next limit known =>
    obtain ⟨left, rfl⟩ := Nat.exists_eq_add_of_lt (within limit known)
    rw [show told + left + 1 - told = left + 1 by omega,
      show told + left + 1 - (told + 1) = left by omega, List.take_succ_cons]

end Plan

/-! ## Tracers on the roster -/

/-- The entries of all tracers. A tracer is registered under its own number. -/
def tracers (count : Nat) : List (Entry Nat) :=
  (List.range count).map fun number => ⟨number, number⟩

theorem tracers_succ (count : Nat) : tracers (count + 1) = tracers count ++ [⟨count, count⟩] := by
  simp [tracers, List.range_succ]

@[simp] theorem length_tracers (count : Nat) : (tracers count).length = count := by
  simp [tracers]

theorem mem_tracers {count number : Nat} (inside : number < count) :
    (⟨number, number⟩ : Entry Nat) ∈ tracers count := by
  simpa [tracers] using inside

/-- The tracer whose turn comes after those of lower numbers. -/
theorem drop_tracers {count first : Nat} (inside : first < count) :
    (tracers count).drop first = ⟨first, first⟩ :: (tracers count).drop (first + 1) := by
  rw [List.drop_eq_getElem_cons (by simpa using inside)]
  simp [tracers]

/-- A registration of a new tracer. -/
theorem add_tracer (count : Nat) :
    Roster.add ⟨tracers count, count⟩ count =
      (⟨tracers (count + 1), count + 1⟩, .added count count (count + 1)) := by
  have new : Roster.contains ⟨tracers count, count⟩ count = false := by
    simp [Roster.contains, tracers]
    omega
  simp [Roster.add, new, tracers_succ, Roster.size]

/-- The first entry is taken out by the removal of its handle. -/
theorem remove_first (entry : Entry Nat) (entries : List (Entry Nat)) (nextSerial : Nat) :
    Roster.remove ⟨entry :: entries, nextSerial⟩ entry.handle =
      (⟨entries, nextSerial⟩, .removed entry.handle entry.serial entries.length) := by
  simp [Roster.remove]

/-! ## What the parts of a turn do -/

namespace Progress

/-- A tracer is told: it counts that and notes the delivery. -/
def noted (progress : Progress) (delivery : Delivery) (received : Nat) : Progress :=
  { progress with
    received := progress.received.setIfInBounds delivery.observer received
    deliveries := progress.deliveries.push delivery
    journal := progress.journal.push (.delivered progress.registry.owner delivery) }

section
variable (progress : Progress) (event : Event)

@[simp] theorem registry_tell : (progress.tell event).registry = progress.registry := rfl

@[simp] theorem received_tell : (progress.tell event).received = progress.received := rfl

@[simp] theorem deliveries_tell : (progress.tell event).deliveries = progress.deliveries := rfl

@[simp] theorem journal_tell :
    (progress.tell event).journal.toList = progress.journal.toList ++ [event] := by
  simp [tell]

variable (delivery : Delivery) (count : Nat)

@[simp] theorem registry_noted : (progress.noted delivery count).registry = progress.registry := rfl

@[simp] theorem received_noted :
    (progress.noted delivery count).received =
      progress.received.setIfInBounds delivery.observer count := rfl

@[simp] theorem deliveries_noted :
    (progress.noted delivery count).deliveries.toList =
      progress.deliveries.toList ++ [delivery] := by
  simp [noted]

@[simp] theorem journal_noted :
    (progress.noted delivery count).journal.toList =
      progress.journal.toList ++ [.delivered progress.registry.owner delivery] := by
  simp [noted]

variable (observer : Nat)

@[simp] theorem observers_detach :
    (progress.detach observer).registry.observers =
      (progress.registry.observers.remove observer).1 := rfl

@[simp] theorem received_detach : (progress.detach observer).received = progress.received := rfl

@[simp] theorem deliveries_detach :
    (progress.detach observer).deliveries = progress.deliveries := rfl

@[simp] theorem journal_detach :
    (progress.detach observer).journal.toList =
      progress.journal.toList ++ [.noticed (progress.registry.observers.remove observer).2] :=
  journal_tell ..

end

end Progress

/-! ## Inside a round -/

/-- The first tracers have had their turns in a round from one state to another, and had all been
told equally often before. Those that have left are gone from the roster. -/
structure Partway (plan : Plan) (source target : StateId) (told : Nat) (past : List Delivery)
    (first : Nat) (progress : Progress) : Prop where
  current : progress.registry.current = target
  entries : progress.registry.observers.entries =
    if plan.limit? = some (told + 1) then (tracers plan.count).drop first else tracers plan.count
  received : ∀ number < plan.count,
    progress.received[number]? = some (if number < first then told + 1 else told)
  deliveries : progress.deliveries.toList =
    past ++ (List.range first).map fun number => ⟨number, source, target⟩

section
variable {plan : Plan} {source target : StateId} {told first : Nat} {past : List Delivery}
  {progress : Progress}

/-- A tracer whose turn comes is registered. -/
theorem Partway.isLive (partway : Partway plan source target told past first progress)
    (inside : first < plan.count) : progress.registry.observers.isLive first := by
  rw [Roster.isLive_iff, List.mem_map]
  refine ⟨⟨first, first⟩, ?_, rfl⟩
  rw [partway.entries]
  split
  · rw [drop_tracers inside]
    exact .head _
  · exact mem_tracers inside

/-- One turn: the next tracer is told, and leaves if that is the limit. -/
theorem Partway.notify (partway : Partway plan source target told past first progress)
    (inside : first < plan.count) :
    ∃ next, Progress.notify plan source ⟨first, first⟩ progress = (next, .ok ()) ∧
      Partway plan source target told past (first + 1) next := by
  have before : progress.received[first]? = some told := by
    simpa using partway.received first inside
  have now : progress.received.getD first 0 + 1 = told + 1 := by
    simp [Array.getD_eq_getD_getElem?, before]
  -- what the tracer notes is the same whether it leaves or not
  have received : ∀ number < plan.count,
      (progress.received.setIfInBounds first (told + 1))[number]? =
        some (if number < first + 1 then told + 1 else told) := by
    intro number here
    rw [Array.getElem?_setIfInBounds]
    split
    · next same =>
      obtain ⟨bound, -⟩ := Array.getElem?_eq_some_iff.1 before
      simp [bound, ← same]
    · next other =>
      rw [partway.received number here]
      split <;> split <;> first | rfl | omega
  have deliveries : (progress.deliveries.push ⟨first, source, target⟩).toList =
      past ++ (List.range (first + 1)).map fun number => ⟨number, source, target⟩ := by
    simp [partway.deliveries, List.range_succ]
  simp only [Progress.notify, now, partway.current, ← Plan.limit?_eq_succ_iff]
  have entries := partway.entries
  split
  · next leaves =>
    rw [if_pos leaves, drop_tracers inside] at entries
    refine ⟨_, rfl, partway.current, ?_, received, deliveries⟩
    rw [if_pos leaves]
    simp only [Progress.detach, Progress.tell, Registry.removeObserver]
    rw [show progress.registry.observers = ⟨_ :: _, progress.registry.observers.nextSerial⟩ from
      congrArg (Roster.mk · _) entries, remove_first]
  · next stays =>
    refine ⟨_, rfl, partway.current, ?_, received, deliveries⟩
    rw [if_neg stays] at entries ⊢
    exact entries

/-- The turns that are left in a round. -/
theorem Partway.visit (partway : Partway plan source target told past first progress)
    (inside : first ≤ plan.count) :
    ∃ final, Progress.visit (Progress.notify plan source) ((tracers plan.count).drop first) progress
        = (final, .ok ()) ∧
      Partway plan source target told past plan.count final := by
  obtain ⟨left, whole⟩ := Nat.exists_eq_add_of_le inside
  induction left generalizing first progress with
  | zero =>
      obtain rfl : plan.count = first := whole
      refine ⟨progress, ?_, partway⟩
      rw [List.drop_eq_nil_of_le (by simp)]
      rfl
  | succ left ih =>
      have next : first < plan.count := by omega
      obtain ⟨after, told, partway'⟩ := partway.notify next
      obtain ⟨final, rest, done⟩ := ih partway' next (by omega)
      refine ⟨final, ?_, done⟩
      rw [drop_tracers next]
      simp only [Progress.visit, if_pos (partway.isLive next), told]
      exact rest

end

/-! ## Between rounds -/

/-- A replay that has moved to another state, before anybody is told. -/
def Progress.moved (progress : Progress) (state : StateId) : Progress :=
  { progress with
    registry := { progress.registry with
      current := state, previous := some progress.registry.current } }.tell
    (.dispatching progress.registry.current state progress.registry.observers.entries.length)

/-- A move is told to those who are registered. -/
theorem Progress.change_of_ne {plan : Plan} {progress final : Progress} {state : StateId}
    (changed : state ≠ progress.registry.current)
    (visited : visit (notify plan progress.registry.current) progress.registry.observers.entries
      (progress.moved state) = (final, .ok ())) :
    progress.change plan state = (final, .ok ()) := by
  simp only [change, Registry.accept?, if_neg changed]
  rw [moved] at visited
  rw [visited]

/-- Every tracer has been told a number of times. All of them are registered, or all have left. -/
structure Standing (plan : Plan) (told : Nat) (progress : Progress) : Prop where
  entries : progress.registry.observers.entries =
    if plan.limit? = some told then [] else tracers plan.count
  received : ∀ number < plan.count, progress.received[number]? = some told
  within : ∀ limit ∈ plan.limit?, told ≤ limit

section
variable {plan : Plan} {told : Nat} {progress : Progress}

/-- A move to the current state is none. -/
theorem Standing.unchanged (standing : Standing plan told progress) :
    ∃ next, progress.change plan progress.registry.current = (next, .ok ()) ∧
      Standing plan told next ∧ next.registry.current = progress.registry.current ∧
      next.deliveries = progress.deliveries := by
  refine ⟨progress.tell (.unchanged progress.registry.current), ?_,
    ⟨standing.entries, standing.received, standing.within⟩, rfl, rfl⟩
  simp [Progress.change, Registry.accept?]

/-- A move after the limit is told to nobody. -/
theorem Standing.unheard (standing : Standing plan told progress)
    (reached : plan.limit? = some told) {state : StateId}
    (changed : state ≠ progress.registry.current) :
    ∃ next, progress.change plan state = (next, .ok ()) ∧
      Standing plan told next ∧ next.registry.current = state ∧
      next.deliveries = progress.deliveries := by
  have nobody := standing.entries
  rw [if_pos reached] at nobody
  refine ⟨progress.moved state, Progress.change_of_ne changed ?_,
    ⟨standing.entries, standing.received, standing.within⟩, rfl, rfl⟩
  rw [nobody]
  rfl

/-- A move before the limit is told to all tracers. -/
theorem Standing.heard (standing : Standing plan told progress)
    (left : plan.limit? ≠ some told) {state : StateId}
    (changed : state ≠ progress.registry.current) :
    ∃ next, progress.change plan state = (next, .ok ()) ∧
      Standing plan (told + 1) next ∧ next.registry.current = state ∧
      next.deliveries.toList =
        progress.deliveries.toList ++ plan.round (progress.registry.current, state) := by
  have all := standing.entries
  rw [if_neg left] at all
  have begins : Partway plan progress.registry.current state told progress.deliveries.toList 0
      (progress.moved state) := by
    refine ⟨rfl, ?_, ?_, ?_⟩
    · simpa [Progress.moved, Progress.tell] using all
    · simpa [Progress.moved, Progress.tell] using standing.received
    · simp [Progress.moved, Progress.tell]
  obtain ⟨final, visited, done⟩ := begins.visit (Nat.zero_le _)
  rw [List.drop_zero, ← all] at visited
  refine ⟨final, Progress.change_of_ne changed visited, ⟨?_, ?_, ?_⟩, done.current,
    done.deliveries⟩
  · rw [done.entries, List.drop_eq_nil_of_le (Nat.le_of_eq (length_tracers _))]
  · intro number here
    rw [done.received number here, if_pos here]
  · intro limit known
    have := standing.within limit known
    have : told ≠ limit := fun same => left (same ▸ known)
    omega

/-- A replay goes through states without a fault, and the tracers are told what they are to hear. -/
theorem Standing.follow (standing : Standing plan told progress) (states : List StateId) :
    ∃ final, Progress.follow plan states progress = (final, .ok ()) ∧
      Standing plan
        (told + (plan.heard told (moves progress.registry.current states)).length) final ∧
      final.registry.current = states.getLastD progress.registry.current ∧
      final.deliveries.toList = progress.deliveries.toList ++
        (plan.heard told (moves progress.registry.current states)).flatMap plan.round := by
  induction states generalizing told progress with
  | nil => exact ⟨progress, rfl, by simpa [moves] using standing, rfl, by simp [moves]⟩
  | cons state states ih =>
      by_cases same : state = progress.registry.current
      · subst same
        obtain ⟨next, changed, standing', current, deliveries⟩ := standing.unchanged
        obtain ⟨final, rest, done, last, told⟩ := ih standing'
        rw [current, deliveries] at *
        refine ⟨final, ?_, ?_, ?_, ?_⟩
        · simp only [Progress.follow, changed, rest]
        · rwa [moves_cons_self]
        · rw [last, List.getLastD_cons]
        · rwa [moves_cons_self]
      · rw [moves_cons_of_ne (Ne.symm same)]
        by_cases reached : plan.limit? = some told
        · obtain ⟨next, changed, standing', current, deliveries⟩ := standing.unheard reached same
          obtain ⟨final, rest, done, last, told⟩ := ih standing'
          rw [Plan.heard_of_limit reached] at *
          rw [current] at last
          rw [deliveries] at told
          refine ⟨final, ?_, done, ?_, told⟩
          · simp only [Progress.follow, changed, rest]
          · rw [last, List.getLastD_cons]
        · obtain ⟨next, changed, standing', current, deliveries⟩ := standing.heard reached same
          obtain ⟨final, rest, done, last, told⟩ := ih standing'
          have within : ∀ limit ∈ plan.limit?, _ < limit := standing'.within
          rw [Plan.heard_cons within]
          rw [current] at done last told
          refine ⟨final, ?_, ?_, ?_, ?_⟩
          · simp only [Progress.follow, changed, rest]
          · rw [List.length_cons]
            rwa [Nat.add_assoc, Nat.add_comm 1] at done
          · rw [last, List.getLastD_cons]
          · rw [told, deliveries, List.flatMap_cons, List.append_assoc]

end

/-! ## Whole replays -/

/-- The journal of the registrations. -/
def registering (count : Nat) : List Event :=
  (List.range count).map fun number => .noticed (.added number number (number + 1))

theorem registering_succ (count : Nat) :
    registering (count + 1) =
      registering count ++ [.noticed (.added count count (count + 1))] := by
  simp [registering, List.range_succ]

/-- Tracers are registered one after the other, and nothing else is done. -/
theorem foldl_register (start : Progress) (fresh : start.registry.observers = {}) (count : Nat) :
    (List.range count).foldl Progress.register start =
      { start with
        registry := { start.registry with observers := ⟨tracers count, count⟩ }
        journal := start.journal ++ (registering count).toArray } := by
  induction count with
  | zero => simp [tracers, registering, ← fresh]
  | succ count ih =>
      rw [List.range_succ, List.foldl_append, ih]
      simp [Progress.register, Progress.tell, Registry.addObserver, add_tracer, registering_succ]

namespace Plan

/-- A replay before its first state. -/
theorem begin_eq (plan : Plan) :
    plan.begin =
      { registry := { owner := plan.owner, current := plan.initialState,
                      observers := ⟨tracers plan.count, plan.count⟩ }
        received := Array.replicate plan.count 0
        journal := (registering plan.count).toArray } := by
  have begun := foldl_register
    { registry := { owner := plan.owner, current := plan.initialState }
      received := Array.replicate plan.count 0 } rfl plan.count
  simpa [begin, count] using begun

/-- Before the first state all tracers are registered and none has been told anything. -/
theorem begin_standing (plan : Plan) :
    Standing plan 0 plan.begin ∧ plan.begin.registry.current = plan.initialState ∧
      plan.begin.deliveries = #[] := by
  rw [begin_eq]
  refine ⟨⟨?_, ?_, fun limit _ => Nat.zero_le limit⟩, rfl, rfl⟩
  · rw [if_neg limit?_ne_zero]
  · intro number here
    simp [here]

/-- The report of a replay. It never fails. -/
theorem replay_eq (plan : Plan) :
    plan.replay = .ok
      { deliveries := (plan.heard 0 plan.moves).flatMap plan.round
        finalState := plan.states.getLastD plan.initialState
        remaining := if plan.limit? = some (plan.heard 0 plan.moves).length then 0
          else plan.count } := by
  obtain ⟨standing, current, none⟩ := plan.begin_standing
  obtain ⟨final, followed, done, last, told⟩ := standing.follow plan.states
  rw [current, Nat.zero_add] at done
  rw [current, none] at told
  rw [current] at last
  simp only [replay, run, followed, Progress.report, told, last, Roster.size, done.entries]
  congr 2
  split <;> simp_all [moves]

end Plan

end Herald.Replay
