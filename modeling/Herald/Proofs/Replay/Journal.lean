import Herald.Proofs.Replay.Report
import Herald.Proofs.Roster.Invariant

/-!
# What the journal of a replay says

Each event of a replay fits those before it (`Orderly`): a tracer is told only while it has not
left, it leaves with the delivery that reaches the limit, and it is taken off the roster before
anything else happens. Nothing fails, nobody is passed over, and no removal comes to nothing.

`Kept` adds how far the journal, the counters of the tracers and the roster agree. Telling a tracer
(`Kept.told`) and its leaving (`Kept.left`) keep that. Only the entry whose turn it is can leave the
roster in a walk, so those that are still to come are registered at their turns (`Kept.visit`), and
`Kept.follow` is the induction over the states of a plan.
-/

namespace Herald.Replay

/-! ## Reading a journal -/

/-- The delivery that an event tells of. -/
def Event.delivery? : Event → Option Delivery
  | .delivered _ delivery => some delivery
  | _ => none

/-- The tracer that an event says is about to leave. -/
def Event.leaver? : Event → Option Nat
  | .detaching observer _ => some observer
  | _ => none

/-- The registration that an event tells of. -/
def Event.registration? : Event → Option (Entry Nat)
  | .noticed (.added handle serial _) => some ⟨serial, handle⟩
  | _ => none

/-- The deliveries in a journal. -/
def deliveriesIn (journal : List Event) : List Delivery :=
  journal.filterMap Event.delivery?

/-- The tracers that have left in a journal, in order. -/
def leaversIn (journal : List Event) : List Nat :=
  journal.filterMap Event.leaver?

/-- The registrations in a journal. -/
def registrationsIn (journal : List Event) : List (Entry Nat) :=
  journal.filterMap Event.registration?

/-- How often a tracer is told in a journal. -/
def toldIn (journal : List Event) (observer : Nat) : Nat :=
  (deliveriesIn journal).countP fun delivery => delivery.observer = observer

section
variable (event : Event) (journal events : List Event)

@[simp] theorem deliveriesIn_nil : deliveriesIn [] = [] := rfl

@[simp] theorem deliveriesIn_cons :
    deliveriesIn (event :: events) = event.delivery?.toList ++ deliveriesIn events := by
  cases event <;> rfl

@[simp] theorem deliveriesIn_append :
    deliveriesIn (journal ++ events) = deliveriesIn journal ++ deliveriesIn events :=
  List.filterMap_append

@[simp] theorem leaversIn_nil : leaversIn [] = [] := rfl

@[simp] theorem leaversIn_cons :
    leaversIn (event :: events) = event.leaver?.toList ++ leaversIn events := by
  cases event <;> rfl

@[simp] theorem leaversIn_append :
    leaversIn (journal ++ events) = leaversIn journal ++ leaversIn events :=
  List.filterMap_append

@[simp] theorem registrationsIn_nil : registrationsIn [] = [] := rfl

@[simp] theorem registrationsIn_cons :
    registrationsIn (event :: events) = event.registration?.toList ++ registrationsIn events := by
  cases tells : event.registration? <;> simp [registrationsIn, tells]

@[simp] theorem registrationsIn_append :
    registrationsIn (journal ++ events) = registrationsIn journal ++ registrationsIn events :=
  List.filterMap_append

variable (observer : Nat)

@[simp] theorem toldIn_nil : toldIn [] observer = 0 := rfl

@[simp] theorem toldIn_cons :
    toldIn (event :: events) observer =
      (event.delivery?.toList.countP fun delivery => delivery.observer = observer) +
        toldIn events observer := by
  simp [toldIn]

@[simp] theorem toldIn_append :
    toldIn (journal ++ events) observer = toldIn journal observer + toldIn events observer := by
  simp [toldIn]

end

/-! ## Journals in order -/

/-- What an event of a replay may be, after those of a journal. -/
def Event.Lawful (plan : Plan) (journal : List Event) : Event → Prop
  | .delivered owner delivery => owner = plan.owner ∧ delivery.observer ∉ leaversIn journal
  | .detaching observer received =>
    plan.detachAfter.map UInt64.toNat = some received ∧ toldIn journal observer = received
  | .skipped _ | .failed _ | .noticed (.removeIgnored _) => False
  | _ => True

/-- An event may come next in the journal of a replay. -/
structure Fits (plan : Plan) (journal : List Event) (event : Event) : Prop where
  /-- A tracer that is about to leave is taken off the roster before anything else happens. -/
  prompt : ∀ observer received, journal.getLast? = some (.detaching observer received) →
    ∃ left, event = .noticed (.removed observer observer left)
  lawful : event.Lawful plan journal

/-- Each event of a journal fits those before it. -/
def Orderly (plan : Plan) (journal : List Event) : Prop :=
  ∀ before event after, journal = before ++ event :: after → Fits plan before event

/-- No tracer is about to leave. -/
def Settled (journal : List Event) : Prop :=
  ∀ observer received, journal.getLast? ≠ some (.detaching observer received)

section
variable {plan : Plan} {journal before after : List Event} {event : Event}
  {observer received : Nat}

theorem Settled.prompt (settled : Settled journal) :
    ∀ observer received, journal.getLast? = some (.detaching observer received) →
      ∃ left, event = .noticed (.removed observer observer left) :=
  fun observer received last => absurd last (settled observer received)

theorem Orderly.concat (orderly : Orderly plan journal) (fits : Fits plan journal event) :
    Orderly plan (journal ++ [event]) := by
  intro before other after split
  -- the event is the new one, or it has stood in the journal with the same events before it
  rcases List.eq_nil_or_concat after with rfl | ⟨rest, last, rfl⟩
  · obtain ⟨rfl, same⟩ := List.append_inj' split rfl
    cases same
    exact fits
  · have split : journal ++ [event] = before ++ other :: rest ++ [last] := by simpa using split
    obtain ⟨rfl, -⟩ := List.append_inj' split rfl
    exact orderly before other rest rfl

theorem Orderly.lawful (orderly : Orderly plan journal) (mem : event ∈ journal) :
    ∃ before, event.Lawful plan before := by
  obtain ⟨before, after, split⟩ := List.append_of_mem mem
  exact ⟨before, (orderly before event after split).lawful⟩

/-- A tracer that is about to leave is not told of anything after that. -/
theorem Orderly.not_told_after (orderly : Orderly plan journal)
    (split : journal = before ++ .detaching observer received :: after) :
    ∀ delivery ∈ deliveriesIn after, delivery.observer ≠ observer := by
  rintro delivery mem rfl
  obtain ⟨event, there, tells⟩ := List.mem_filterMap.1 mem
  obtain ⟨owner, rfl⟩ : ∃ owner, event = .delivered owner delivery := by
    cases event <;> simp_all [Event.delivery?]
  obtain ⟨between, rest, rfl⟩ := List.append_of_mem there
  have fits := orderly (before ++ .detaching delivery.observer received :: between)
    (.delivered owner delivery) rest (by simpa using split)
  exact fits.lawful.2 (by simp [leaversIn, Event.leaver?])

/-- A tracer leaves with the delivery that reaches the limit, and has no other after it. -/
theorem Orderly.told_eq (orderly : Orderly plan journal)
    (split : journal = before ++ .detaching observer received :: after) :
    plan.detachAfter.map UInt64.toNat = some received ∧ toldIn journal observer = received := by
  obtain ⟨limit, sofar⟩ := (orderly before _ after split).lawful
  have none_after : toldIn after observer = 0 := by
    simpa [toldIn, List.countP_eq_zero] using orderly.not_told_after split
  refine ⟨limit, ?_⟩
  simp [split, sofar, none_after, Event.delivery?]

/-- A tracer that is about to leave is taken off the roster next. -/
theorem Orderly.removed_next (orderly : Orderly plan journal) (settled : Settled journal)
    (split : journal = before ++ .detaching observer received :: after) :
    ∃ left rest, after = .noticed (.removed observer observer left) :: rest := by
  cases after with
  | nil => exact absurd (by simp [split]) (settled observer received)
  | cons event rest =>
      have fits := orderly (before ++ [.detaching observer received]) event rest (by simp [split])
      obtain ⟨left, rfl⟩ := fits.prompt observer received (by simp)
      exact ⟨left, rest, rfl⟩

end

/-! ## One turn -/

/-- The removal of a registered tracer tells its number, under which it was registered. -/
theorem remove_numbered {roster : Roster Nat}
    (numbered : ∀ entry ∈ roster.entries, entry.serial = entry.handle) {number : Nat}
    (registered : number ∈ roster.handles) :
    ∃ left, (roster.remove number).2 = .removed number number left := by
  unfold Roster.remove
  split
  · next none =>
    obtain ⟨entry, mem, rfl⟩ := List.mem_map.1 registered
    simpa using List.find?_eq_none.1 none entry mem
  · next entry found =>
    have mem := List.mem_of_find?_eq_some found
    obtain rfl : entry.handle = number := by simpa using List.find?_some found
    rw [numbered entry mem]
    exact ⟨_, rfl⟩

/-- The journal of a replay under way agrees with the counters of the tracers and with the
roster. -/
structure Kept (plan : Plan) (progress : Progress) : Prop where
  owner : progress.registry.owner = plan.owner
  orderly : Orderly plan progress.journal.toList
  settled : Settled progress.journal.toList
  deliveries : deliveriesIn progress.journal.toList = progress.deliveries.toList
  received : ∀ number < plan.count,
    progress.received[number]? = some (toldIn progress.journal.toList number)
  /-- Every tracer has been registered once, under its own number. -/
  registrations : registrationsIn progress.journal.toList = tracers plan.count
  numbered : ∀ entry ∈ progress.registry.observers.entries, entry.serial = entry.handle
  /-- Every tracer has left once or is registered, and none is both. -/
  whole : (leaversIn progress.journal.toList ++ progress.registry.observers.handles).Perm
    (List.range plan.count)

section
variable {plan : Plan} {progress : Progress} {entry : Entry Nat}

/-- A registered tracer has not left. -/
theorem Kept.of_mem (kept : Kept plan progress)
    (mem : entry ∈ progress.registry.observers.entries) :
    entry.handle < plan.count ∧ entry.handle ∉ leaversIn progress.journal.toList := by
  have registered : entry.handle ∈ progress.registry.observers.handles := List.mem_map_of_mem mem
  have distinct := kept.whole.nodup_iff.2 List.nodup_range
  refine ⟨List.mem_range.1 (kept.whole.subset (List.mem_append_right _ registered)), ?_⟩
  intro left
  exact List.disjoint_of_nodup_append distinct left registered

/-- An event that is about no tracer is put into the journal. -/
theorem Kept.tell (kept : Kept plan progress) {event : Event}
    (lawful : event.Lawful plan progress.journal.toList) (told : event.delivery? = none)
    (left : event.leaver? = none) (registered : event.registration? = none) :
    Kept plan (progress.tell event) where
  owner := kept.owner
  orderly := by
    rw [Progress.journal_tell]
    exact kept.orderly.concat ⟨kept.settled.prompt, lawful⟩
  settled := by
    intro observer received last
    obtain rfl : event = .detaching observer received := by simpa using last
    cases left
  deliveries := by simpa [told] using kept.deliveries
  received := by simpa [told] using kept.received
  registrations := by simpa [registered] using kept.registrations
  numbered := kept.numbered
  whole := by simpa [left] using kept.whole

/-- A registered tracer is told. -/
theorem Kept.told (kept : Kept plan progress) (delivery : Delivery)
    (mem : entry ∈ progress.registry.observers.entries) (own : delivery.observer = entry.handle) :
    Kept plan (progress.noted delivery
      (toldIn progress.journal.toList delivery.observer + 1)) where
  owner := kept.owner
  orderly := by
    have here := (kept.of_mem mem).2
    rw [← own] at here
    rw [Progress.journal_noted]
    exact kept.orderly.concat ⟨kept.settled.prompt, kept.owner, here⟩
  settled := by simp [Settled]
  deliveries := by simpa [Event.delivery?] using kept.deliveries
  received := by
    intro number below
    have before := kept.received number below
    obtain ⟨bound, -⟩ := Array.getElem?_eq_some_iff.1 before
    rw [Progress.received_noted, Progress.journal_noted, Array.getElem?_setIfInBounds]
    split
    · next same =>
      subst same
      simp [bound, Event.delivery?]
    · next other => simpa [Event.delivery?, other] using before
  registrations := by simpa [Event.registration?] using kept.registrations
  numbered := kept.numbered
  whole := by simpa [Event.leaver?] using kept.whole

/-- A registered tracer leaves that has been told as often as the limit says. -/
theorem Kept.left (kept : Kept plan progress)
    (mem : entry ∈ progress.registry.observers.entries) {received : Nat}
    (counted : toldIn progress.journal.toList entry.handle = received)
    (limit : plan.detachAfter.map UInt64.toNat = some received) :
    Kept plan ((progress.tell (.detaching entry.handle received)).detach entry.handle) := by
  have registered : entry.handle ∈ progress.registry.observers.handles := List.mem_map_of_mem mem
  obtain ⟨left, removed⟩ := remove_numbered kept.numbered registered
  have journal :
      ((progress.tell (.detaching entry.handle received)).detach entry.handle).journal.toList =
        progress.journal.toList ++ [.detaching entry.handle received] ++
          [.noticed (.removed entry.handle entry.handle left)] := by
    simp [removed]
  have announced : Fits plan progress.journal.toList (.detaching entry.handle received) :=
    ⟨kept.settled.prompt, limit, counted⟩
  have prompt : Fits plan (progress.journal.toList ++ [.detaching entry.handle received])
      (.noticed (.removed entry.handle entry.handle left)) := by
    refine ⟨?_, trivial⟩
    intro observer _ last
    obtain ⟨rfl, -⟩ : entry.handle = observer ∧ _ := by simpa using last
    exact ⟨left, rfl⟩
  exact
    { owner := kept.owner
      orderly := by
        rw [journal]
        exact (kept.orderly.concat announced).concat prompt
      settled := by simp [Settled]
      deliveries := by simpa [Event.delivery?] using kept.deliveries
      received := by simpa [Event.delivery?] using kept.received
      registrations := by
        rw [journal]
        simpa [Event.registration?] using kept.registrations
      numbered := by
        intro other there
        rw [Progress.observers_detach, Roster.entries_remove] at there
        exact kept.numbered other (List.mem_of_mem_eraseP there)
      whole := by
        -- the tracer goes over from those that are registered to those that have left
        have moved := (List.perm_cons_erase registered).symm.append_left
          (leaversIn progress.journal.toList)
        rw [journal, Progress.observers_detach, Roster.handles_remove]
        simpa [Event.leaver?] using moved.trans kept.whole }

/-- The turn of a registered tracer. It alone may leave the roster. -/
theorem Kept.notify (kept : Kept plan progress) (source : StateId) {pending : List (Entry Nat)}
    (due : (entry :: pending).Sublist progress.registry.observers.entries) :
    ∃ next, Progress.notify plan source entry progress = (next, .ok ()) ∧ Kept plan next ∧
      pending.Sublist next.registry.observers.entries := by
  have mem : entry ∈ progress.registry.observers.entries := due.subset (List.mem_cons_self ..)
  have counted : progress.received.getD entry.handle 0 + 1 =
      toldIn progress.journal.toList entry.handle + 1 := by
    simp [Array.getD_eq_getD_getElem?, kept.received _ (kept.of_mem mem).1]
  have told := kept.told ⟨entry.handle, source, progress.registry.current⟩ mem rfl
  simp only [Progress.notify, counted]
  split
  · next limit =>
    refine ⟨_, rfl, told.left mem (by simp [Event.delivery?]) limit, ?_⟩
    -- the entry stands before those that wait, so it is the one that is taken out
    have rest := due.eraseP (p := fun other => decide (other.handle = entry.handle))
    rw [List.eraseP_cons_of_pos (by simp)] at rest
    rw [Progress.observers_detach, Roster.entries_remove]
    exact rest
  · exact ⟨_, rfl, told, List.sublist_of_cons_sublist due⟩

/-- A walk over entries that are registered in this order. All of them have their turns. -/
theorem Kept.visit (kept : Kept plan progress) (source : StateId) {pending : List (Entry Nat)}
    (due : pending.Sublist progress.registry.observers.entries) :
    ∃ final, Progress.visit (Progress.notify plan source) pending progress = (final, .ok ()) ∧
      Kept plan final := by
  induction pending generalizing progress with
  | nil => exact ⟨progress, rfl, kept⟩
  | cons entry pending ih =>
      have live : progress.registry.observers.isLive entry.serial :=
        Roster.isLive_iff.2 (List.mem_map_of_mem (due.subset (List.mem_cons_self ..)))
      obtain ⟨next, told, kept', due'⟩ := kept.notify source due
      obtain ⟨final, rest, done⟩ := ih kept' due'
      refine ⟨final, ?_, done⟩
      simp only [Progress.visit, if_pos live, told]
      exact rest

/-! ## Whole replays -/

/-- A registry that is taken to a state. -/
theorem Kept.change (kept : Kept plan progress) (state : StateId) :
    ∃ next, progress.change plan state = (next, .ok ()) ∧ Kept plan next := by
  by_cases same : state = progress.registry.current
  · refine ⟨progress.tell (.unchanged state), ?_, kept.tell trivial rfl rfl rfl⟩
    simp [Progress.change, Registry.accept?, same]
  · have moved : Kept plan (progress.moved state) := by
      have entered : Kept plan { progress with registry := { progress.registry with
          current := state, previous := some progress.registry.current } } :=
        ⟨kept.owner, kept.orderly, kept.settled, kept.deliveries, kept.received,
          kept.registrations, kept.numbered, kept.whole⟩
      exact entered.tell trivial rfl rfl rfl
    obtain ⟨final, visited, done⟩ := moved.visit progress.registry.current (List.Sublist.refl _)
    exact ⟨final, Progress.change_of_ne same visited, done⟩

theorem Kept.follow (kept : Kept plan progress) (states : List StateId) :
    ∃ final, Progress.follow plan states progress = (final, .ok ()) ∧ Kept plan final := by
  induction states generalizing progress with
  | nil => exact ⟨progress, rfl, kept⟩
  | cons state states ih =>
      obtain ⟨next, changed, kept'⟩ := kept.change state
      obtain ⟨final, rest, done⟩ := ih kept'
      exact ⟨final, by simp only [Progress.follow, changed, rest], done⟩

end

/-! ## The registrations -/

theorem settled_registering (count : Nat) : Settled (registering count) := by
  intro observer received last
  have mem := List.mem_of_getLast? last
  simp [registering] at mem

theorem orderly_registering (plan : Plan) (count : Nat) : Orderly plan (registering count) := by
  induction count with
  | zero =>
      intro before event after split
      simp [registering] at split
  | succ count ih =>
      rw [registering_succ]
      exact ih.concat ⟨(settled_registering count).prompt, trivial⟩

@[simp] theorem deliveriesIn_registering (count : Nat) : deliveriesIn (registering count) = [] := by
  simp [deliveriesIn, registering, Event.delivery?]

@[simp] theorem leaversIn_registering (count : Nat) : leaversIn (registering count) = [] := by
  simp [leaversIn, registering, Event.leaver?]

@[simp] theorem registrationsIn_registering (count : Nat) :
    registrationsIn (registering count) = tracers count := by
  simp [registrationsIn, registering, tracers, List.filterMap_map, Function.comp_def,
    Event.registration?]

namespace Plan

/-- Before the first state every tracer is registered and none has left. -/
theorem begin_kept (plan : Plan) : Kept plan plan.begin := by
  rw [begin_eq]
  exact
    { owner := rfl
      orderly := orderly_registering plan plan.count
      settled := settled_registering plan.count
      deliveries := by simp
      received := by
        intro number below
        simp [toldIn, below]
      registrations := by simp
      numbered := by simp [tracers]
      whole := by simp [tracers, Roster.handles, Function.comp_def] }

/-- A whole replay. It never fails. -/
theorem exists_kept (plan : Plan) :
    ∃ final, plan.run = (final, .ok ()) ∧ Kept plan final :=
  plan.begin_kept.follow plan.states

end Plan

end Herald.Replay
