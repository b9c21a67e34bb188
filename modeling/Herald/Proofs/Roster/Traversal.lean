import Herald.Roster.History

/-!
# What the journal shows of a walk

`Traversal` is a walk as its journal shows it: the entries of the snapshot have their turns one
after the other, an entry is visited if no call has expelled its handle since the walk began and is
skipped if one has, and the first visit that stops is the last. Between the beginning of a visit and
its end anything may happen, other walks and their visits included, as long as it is not about this
walk.

Nothing of the machine is left here. That its walks are traversals is shown elsewhere; what follows
for the visits and for the outcome of a walk (`Exact`) is a matter of lists of events.
-/

namespace Herald.Roster

variable {α : Type}

/-! ## Journals -/

/-- The level of the walk that an event is about. -/
def Event.level? : Event α → Option Nat
  | .began level _ | .visited level _ | .returned level _ _ | .skipped level _ | .ended level _ =>
    some level
  | _ => none

/-- None of the events is about a walk of the level. -/
def Quiet (level : Nat) (events : List (Event α)) : Prop :=
  ∀ event ∈ events, event.level? ≠ some level

/-- The entry whose turn an event is. -/
def Event.turn? (level : Nat) : Event α → Option (Entry α)
  | .visited other entry | .skipped other entry => if other = level then some entry else none
  | _ => none

/-- The entry whose visit begins with an event. -/
def Event.visit? (level : Nat) : Event α → Option (Entry α)
  | .visited other entry => if other = level then some entry else none
  | _ => none

/-- The handle whose visit ends with an event, and whether the visit was stopped. -/
def Event.result? (level : Nat) : Event α → Option (α × Option Stop)
  | .returned other handle stop => if other = level then some (handle, stop) else none
  | _ => none

/-- The entries that had their turns, in order. -/
def turnsAt (level : Nat) (journal : List (Event α)) : List (Entry α) :=
  journal.filterMap (Event.turn? level)

/-- The entries that were visited, in order. -/
def visitsAt (level : Nat) (journal : List (Event α)) : List (Entry α) :=
  journal.filterMap (Event.visit? level)

/-- How the visits ended, in order. -/
def resultsAt (level : Nat) (journal : List (Event α)) : List (α × Option Stop) :=
  journal.filterMap (Event.result? level)

/-- The handles of entries, each with the result of a visit that is not stopped. -/
def unstopped (entries : List (Entry α)) : List (α × Option Stop) :=
  entries.map fun entry => (entry.handle, none)

/-- None of the calls that a journal tells of has expelled a handle. -/
def Undisturbed (journal : List (Event α)) (handle : α) : Prop :=
  ∀ edit ∈ history journal, ¬ edit.Expels handle

/-- The visits of a walk and its outcome are as they should be: `during` is what happened between
its beginning and its end. -/
structure Exact (level : Nat) (snapshot : List (Entry α)) (during : List (Event α))
    (stop : Option Stop) : Prop where
  /-- Entries have their turns in the order of the snapshot. -/
  order : turnsAt level during <+: snapshot
  visited : ∀ past entry, past ++ [.visited level entry] <+: during →
    Undisturbed past entry.handle
  skipped : ∀ past entry, past ++ [.skipped level entry] <+: during →
    ¬ Undisturbed past entry.handle
  /-- The walk is not over earlier. -/
  unended : ∀ other, .ended level other ∉ during
  /-- If the walk was not stopped, each entry had its turn and no visit was stopped. -/
  finished : stop = none →
    turnsAt level during = snapshot ∧ resultsAt level during = unstopped (visitsAt level during)
  /-- If the walk was stopped, its last visit was stopped, for the same reason, and it was the only
  one. -/
  stopped : ∀ why, stop = some why → ∃ earlier last inner,
    during = earlier ++ .visited level last :: inner ++ [.returned level last.handle stop] ∧
      Quiet level inner ∧ resultsAt level earlier = unstopped (visitsAt level earlier)

/-! ## Traversals -/

/-- How a walk stands. -/
inductive Phase (α : Type) where
  /-- The next entry is to have its turn. -/
  | between
  | visiting (entry : Entry α)
  | stopped (why : Stop)

/-- Why a walk has been stopped, if it has. -/
def Phase.stop? : Phase α → Option Stop
  | .stopped why => some why
  | _ => none

/-- The results that are still to come if the visit under way is not stopped. -/
def Phase.due : Phase α → List (α × Option Stop)
  | .visiting entry => [(entry.handle, none)]
  | _ => []

/-- What has happened since a walk began, the entries that have not had their turns, and how the
walk stands. -/
inductive Traversal (level : Nat) (snapshot : List (Entry α)) :
    List (Event α) → List (Entry α) → Phase α → Prop where
  | start : Traversal level snapshot [] snapshot .between
  | visit {past entry pending} (sofar : Traversal level snapshot past (entry :: pending) .between)
      (undisturbed : Undisturbed past entry.handle) :
      Traversal level snapshot (past ++ [.visited level entry]) pending (.visiting entry)
  | skip {past entry pending} (sofar : Traversal level snapshot past (entry :: pending) .between)
      (disturbed : ¬ Undisturbed past entry.handle) :
      Traversal level snapshot (past ++ [.skipped level entry]) pending .between
  | within {past entry pending events}
      (sofar : Traversal level snapshot past pending (.visiting entry))
      (quiet : Quiet level events) :
      Traversal level snapshot (past ++ events) pending (.visiting entry)
  | returned {past entry pending}
      (sofar : Traversal level snapshot past pending (.visiting entry)) :
      Traversal level snapshot (past ++ [.returned level entry.handle none]) pending .between
  | stopped {past entry pending}
      (sofar : Traversal level snapshot past pending (.visiting entry)) (why : Stop) :
      Traversal level snapshot (past ++ [.returned level entry.handle (some why)]) pending
        (.stopped why)

/-- A walk ends when no entry is left, or when it has been stopped. -/
inductive Phase.Final : Phase α → List (Entry α) → Option Stop → Prop where
  | finished : Phase.Final .between [] none
  | stopped {why pending} : Phase.Final (.stopped why) pending (some why)

/-! ## What is read off a journal -/

theorem Quiet.filterMap_eq_nil {β : Type} {level : Nat} {events : List (Event α)}
    (quiet : Quiet level events) {read : Event α → Option β}
    (about : ∀ event value, read event = some value → event.level? = some level) :
    events.filterMap read = [] := by
  rw [List.filterMap_eq_nil_iff]
  intro event mem
  cases value : read event with
  | none => rfl
  | some value' => exact absurd (about event value' value) (quiet event mem)

theorem Event.level?_of_turn? {level : Nat} (event : Event α) (entry : Entry α)
    (turn : event.turn? level = some entry) : event.level? = some level := by
  cases event <;> simp_all [Event.turn?, Event.level?]

theorem Event.level?_of_visit? {level : Nat} (event : Event α) (entry : Entry α)
    (visit : event.visit? level = some entry) : event.level? = some level := by
  cases event <;> simp_all [Event.visit?, Event.level?]

theorem Event.level?_of_result? {level : Nat} (event : Event α) (result : α × Option Stop)
    (returned : event.result? level = some result) : event.level? = some level := by
  cases event <;> simp_all [Event.result?, Event.level?]

section
variable {level : Nat} {snapshot pending : List (Entry α)} {phase : Phase α} {entry : Entry α}
  {past during journal events : List (Event α)}

theorem Quiet.turnsAt_eq_nil (quiet : Quiet level events) : turnsAt level events = [] :=
  quiet.filterMap_eq_nil Event.level?_of_turn?

theorem Quiet.visitsAt_eq_nil (quiet : Quiet level events) : visitsAt level events = [] :=
  quiet.filterMap_eq_nil Event.level?_of_visit?

theorem Quiet.resultsAt_eq_nil (quiet : Quiet level events) : resultsAt level events = [] :=
  quiet.filterMap_eq_nil Event.level?_of_result?

@[simp] theorem turnsAt_append :
    turnsAt level (journal ++ events) = turnsAt level journal ++ turnsAt level events :=
  List.filterMap_append

@[simp] theorem visitsAt_append :
    visitsAt level (journal ++ events) = visitsAt level journal ++ visitsAt level events :=
  List.filterMap_append

@[simp] theorem resultsAt_append :
    resultsAt level (journal ++ events) = resultsAt level journal ++ resultsAt level events :=
  List.filterMap_append

@[simp] theorem unstopped_append (first second : List (Entry α)) :
    unstopped (first ++ second) = unstopped first ++ unstopped second :=
  List.map_append

/-- A visit is a turn. -/
theorem visitsAt_sublist_turnsAt (level : Nat) (journal : List (Event α)) :
    (visitsAt level journal).Sublist (turnsAt level journal) := by
  induction journal with
  | nil => exact .slnil
  | cons event journal ih =>
      have both : ∀ entry, event.visit? level = some entry → event.turn? level = some entry := by
        intro entry visit
        cases event <;> simp_all [Event.visit?, Event.turn?]
      unfold visitsAt turnsAt at ih ⊢
      cases visit : event.visit? level with
      | none =>
          rw [List.filterMap_cons_none visit]
          exact ih.trans ((List.sublist_cons_self event journal).filterMap _)
      | some entry =>
          rw [List.filterMap_cons_some visit, List.filterMap_cons_some (both entry visit)]
          exact ih.cons_cons entry

/-- What stands in a journal to which events are added stands before them or is one of them. -/
theorem prefix_or_mem_of_prefix_append {event : Event α} {events : List (Event α)}
    (there : past ++ [event] <+: journal ++ events) :
    past ++ [event] <+: journal ∨ event ∈ events := by
  induction events generalizing journal with
  | nil => exact .inl (by simpa using there)
  | cons first events ih =>
      have there' : past ++ [event] <+: (journal ++ [first]) ++ events := by simpa using there
      rcases ih there' with before | mem
      · rcases List.prefix_concat_iff.1 before with same | before
        · cases (List.append_inj' same rfl).2
          exact .inr (.head _)
        · exact .inl before
      · exact .inr (.tail first mem)

/-! ## Traversals are exact -/

theorem Traversal.turnsAt_append_pending (walk : Traversal level snapshot past pending phase) :
    turnsAt level past ++ pending = snapshot := by
  induction walk with
  | start => rfl
  | visit _ _ ih | skip _ _ ih | returned _ ih | stopped _ _ ih =>
      simpa [turnsAt, List.filterMap_cons, Event.turn?] using ih
  | within _ quiet ih => simpa [quiet.turnsAt_eq_nil] using ih

theorem Traversal.mem_snapshot
    (walk : Traversal level snapshot past (entry :: pending) phase) : entry ∈ snapshot := by
  rw [← walk.turnsAt_append_pending]
  simp

/-- As long as no visit was stopped, each visit has a result or is under way. -/
theorem Traversal.resultsAt_append_due (walk : Traversal level snapshot past pending phase)
    (goes : phase.stop? = none) :
    resultsAt level past ++ phase.due = unstopped (visitsAt level past) := by
  induction walk with
  | start => rfl
  | visit _ _ ih | skip _ _ ih | returned _ ih =>
      have ih := ih rfl
      simpa [visitsAt, resultsAt, List.filterMap_cons, Event.visit?, Event.result?, Phase.due,
        unstopped] using ih
  | within _ quiet ih => simpa [quiet.visitsAt_eq_nil, quiet.resultsAt_eq_nil] using ih rfl
  | stopped => cases goes

/-- Before a visit ends only its beginning is about the walk. -/
theorem Traversal.of_visiting (walk : Traversal level snapshot past pending (.visiting entry)) :
    ∃ earlier inner, past = earlier ++ .visited level entry :: inner ∧ Quiet level inner ∧
      Traversal level snapshot earlier (entry :: pending) .between := by
  generalize visiting : Phase.visiting entry = phase at walk
  induction walk with
  | start | skip | returned | stopped => cases visiting
  | visit sofar =>
      cases visiting
      exact ⟨_, [], rfl, List.forall_mem_nil _, sofar⟩
  | @within _ _ _ events _ quiet ih =>
      obtain ⟨earlier, inner, rfl, quietInner, sofar⟩ := ih visiting
      cases visiting
      refine ⟨earlier, inner ++ events, by simp, ?_, sofar⟩
      intro event mem
      rcases List.mem_append.1 mem with mem | mem
      · exact quietInner event mem
      · exact quiet event mem

theorem Traversal.not_ended (walk : Traversal level snapshot past pending phase)
    (other : Option Stop) : .ended level other ∉ past := by
  induction walk with
  | start => exact List.not_mem_nil
  | visit _ _ ih | skip _ _ ih | returned _ ih | stopped _ _ ih => simpa using ih
  | within _ quiet ih => simpa [ih] using fun mem => quiet _ mem rfl

/-- Whether it is right that an event gives an entry its turn as it does. -/
def Event.Justified (level : Nat) (past : List (Event α)) : Event α → Prop
  | .visited other entry => other = level → Undisturbed past entry.handle
  | .skipped other entry => other = level → ¬ Undisturbed past entry.handle
  | _ => True

theorem Event.justified_of_level? {event : Event α} (other : event.level? ≠ some level) :
    event.Justified level past := by
  cases event with
  | visited | skipped => exact fun same => absurd (congrArg some same) other
  | _ => trivial

theorem Traversal.justified (walk : Traversal level snapshot during pending phase)
    {event : Event α} (there : past ++ [event] <+: during) : event.Justified level past := by
  induction walk with
  | start => simp at there
  | visit _ fair ih | skip _ fair ih =>
      -- either the event is this very turn, or it happened before
      rcases List.prefix_concat_iff.1 there with same | before
      · obtain ⟨rfl, last⟩ := List.append_inj' same rfl
        cases last
        exact fun _ => fair
      · exact ih before
  | within _ quiet ih =>
      rcases prefix_or_mem_of_prefix_append there with before | mem
      · exact ih before
      · exact Event.justified_of_level? (quiet _ mem)
  | returned _ ih | stopped _ _ ih =>
      rcases List.prefix_concat_iff.1 there with same | before
      · obtain ⟨rfl, last⟩ := List.append_inj' same rfl
        cases last
        trivial
      · exact ih before

/-- Only entries of the snapshot are visited. -/
theorem Exact.mem_snapshot {stop : Option Stop} (exact : Exact level snapshot during stop)
    (there : past ++ [.visited level entry] <+: during) : entry ∈ snapshot := by
  have turn : entry ∈ turnsAt level (past ++ [.visited level entry]) := by
    simp [turnsAt, Event.turn?]
  exact exact.order.subset ((there.filterMap _).subset turn)

/-- A traversal that has ended is exact. -/
theorem Traversal.exact {stop : Option Stop}
    (walk : Traversal level snapshot during pending phase) (final : phase.Final pending stop) :
    Exact level snapshot during stop where
  order := ⟨pending, walk.turnsAt_append_pending⟩
  visited _ _ there := walk.justified there rfl
  skipped _ _ there := walk.justified there rfl
  unended := walk.not_ended
  finished := by
    rintro rfl
    cases final with
    | finished =>
        have turns := walk.turnsAt_append_pending
        have results := walk.resultsAt_append_due rfl
        exact ⟨by simpa using turns, by simpa [Phase.due] using results⟩
  stopped := by
    rintro why rfl
    cases final with
    | stopped =>
        cases walk with
        | stopped sofar =>
            obtain ⟨earlier, inner, rfl, quiet, before⟩ := sofar.of_visiting
            have results := before.resultsAt_append_due rfl
            exact ⟨earlier, _, inner, rfl, quiet, by simpa [Phase.due] using results⟩

end

end Herald.Roster
