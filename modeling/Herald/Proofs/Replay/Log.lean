import Herald.Proofs.Label
import Herald.Proofs.Replay.Journal
import Herald.Roster.Log

/-!
# The log of a replay agrees with its report

What a replay leaves in a log is enough to get its report back: a record for each delivery, with
labels that are read back as the states, and for each tracer that leaves a record of that, with the
number of deliveries that the report has for it. `log_of_replay` says that of every plan.

The records follow from the journal. In a replay the message of a record says what event it is of
(`filter_record`), because nothing fails and so no text of a fault is among the messages.
-/

namespace Herald

/-- The text in a field of a record. -/
def Trace.Record.text? (record : Trace.Record) (name : String) : Option String :=
  match record.fields.lookup name with
  | some (.text text) => some text
  | _ => none

namespace Replay

/-! ## The log -/

/-- The log of a replay. -/
def Plan.log (plan : Plan) : List Trace.Record :=
  plan.journal.map Event.record

/-- The log records of a replay that have a given message. -/
def Plan.logged (plan : Plan) (message : String) : List Trace.Record :=
  plan.log.filter fun record => record.message = message

/-- The delivery that a record tells of, with its labels read as states. -/
def Delivery.ofRecord? (record : Trace.Record) : Option Delivery := do
  let source ← record.text? "from"
  let target ← record.text? "to"
  return {
    observer := ← record.number? "observer"
    previous := ← (StateId.parse source).toOption
    current := ← (StateId.parse target).toOption }

/-- A record is of a tracer that leaves a replay, and is followed by other records. -/
structure Leaving (plan : Plan) (report : Report) (record : Trace.Record)
    (after : List Trace.Record) (observer : Nat) : Prop where
  known : observer < plan.observers.toNat
  fields : record.fields =
    [("observer", .number observer), ("received", .number (report.receivedBy observer))]
  /-- It has been told as often as the plan allows. -/
  limit : plan.detachAfter.map UInt64.toNat = some (report.receivedBy observer)
  /-- Its registration is taken off the roster next. -/
  removed : ∃ left : Nat, after.head? = some
    { level := .debug
      message := "observer removed"
      fields := [("serial", .number observer), ("observers", .number left)] }
  /-- No delivery to it follows. -/
  silent : ∀ later ∈ after, later.message = "lifecycle transition delivered" →
    later.number? "observer" ≠ some observer

/-- The log of a replay agrees with its report. -/
structure Report.Matches (report : Report) (plan : Plan) : Prop where
  /-- There is a record for each delivery, in order, under the labels of its states. -/
  delivered : plan.logged "lifecycle transition delivered" =
    report.deliveries.map fun delivery =>
      { level := .info
        message := "lifecycle transition delivered"
        fields := [("owner", .text plan.owner), ("observer", .number delivery.observer),
          ("from", .text delivery.previous.label), ("to", .text delivery.current.label)] }
  /-- The deliveries are read back from their records. -/
  readBack : (plan.logged "lifecycle transition delivered").map Delivery.ofRecord? =
    report.deliveries.map some
  /-- There is a record for each tracer that is not registered at the end, and no other of it. -/
  left : (plan.logged "observer detaching itself").length + report.remaining =
    plan.observers.toNat
  once : ((plan.logged "observer detaching itself").map (·.number? "observer")).Nodup
  /-- Every tracer is registered once, under the serial number that is its own number. -/
  registered : registrationsIn plan.journal =
    (List.range plan.observers.toNat).map fun number => ⟨number, number⟩
  /-- Each of these records is of a tracer that leaves as the plan says. -/
  leaving : ∀ before record after, plan.log = before ++ record :: after →
    record.message = "observer detaching itself" →
      ∃ observer, Leaving plan report record after observer
  /-- Nobody is passed over, and no removal comes to nothing. -/
  skipped : plan.logged "observer removed before its turn; skipped" = []
  ignored : plan.logged "observer not registered; remove ignored" = []

/-! ## What a message tells -/

/-- The message of a record tells what event of a replay it is of. -/
theorem Event.Lawful.message_iff {plan : Plan} {journal : List Event} {event : Event}
    (lawful : event.Lawful plan journal) :
    (event.record.message = "lifecycle transition delivered" ↔
      ∃ delivery, event = .delivered plan.owner delivery) ∧
    (event.record.message = "observer detaching itself" ↔
      ∃ observer received, event = .detaching observer received) ∧
    event.record.message ≠ "observer removed before its turn; skipped" ∧
    event.record.message ≠ "observer not registered; remove ignored" := by
  cases event with
  | noticed notice =>
      cases notice with
      | removeIgnored => exact lawful.elim
      | added | addIgnored | removed | cleared => simp [Event.record, Notice.record]
  | unchanged | dispatching => simp [Event.record, StateId.unchangedRecord, StateId.dispatchRecord]
  | delivered =>
      obtain ⟨rfl, -⟩ := lawful
      simp [Event.record]
  | detaching => simp [Event.record]
  | skipped | failed => exact lawful.elim  -- the text of a fault could be any message

/-- The records with a message are those of the events that a view picks out. -/
theorem filter_record {β : Type} {journal : List Event} {message : String}
    {view : Event → Option β} {write : β → Trace.Record}
    (told : ∀ event ∈ journal, ∀ x, view event = some x →
      event.record = write x ∧ event.record.message = message)
    (other : ∀ event ∈ journal, view event = none → event.record.message ≠ message) :
    (journal.map Event.record).filter (fun record => record.message = message) =
      (journal.filterMap view).map write := by
  induction journal with
  | nil => rfl
  | cons event journal ih =>
      rw [List.forall_mem_cons] at told other
      rw [List.map_cons, List.filter_cons, ih told.2 other.2]
      cases seen : view event with
      | none => simp [seen, other.1 seen]
      | some x =>
          obtain ⟨same, named⟩ := told.1 x seen
          rw [if_pos (by simpa using named), same]
          simp [seen]

section
variable {plan : Plan} {journal : List Event}

theorem Orderly.filter_delivered (orderly : Orderly plan journal) :
    ((journal.map Event.record).filter fun record =>
        record.message = "lifecycle transition delivered") =
      (deliveriesIn journal).map fun delivery => (Event.delivered plan.owner delivery).record := by
  refine filter_record ?_ ?_
  · intro event mem delivery seen
    obtain ⟨before, lawful⟩ := orderly.lawful mem
    cases event <;> cases seen
    obtain ⟨rfl, -⟩ := lawful
    exact ⟨rfl, rfl⟩
  · intro event mem unseen named
    obtain ⟨before, lawful⟩ := orderly.lawful mem
    obtain ⟨delivery, rfl⟩ := lawful.message_iff.1.1 named
    cases unseen

theorem Orderly.filter_detaching (orderly : Orderly plan journal) :
    ((journal.map Event.record).filter fun record =>
        record.message = "observer detaching itself") =
      (leaversIn journal).map fun observer =>
        (Event.detaching observer ((plan.detachAfter.map UInt64.toNat).getD 0)).record := by
  refine filter_record ?_ ?_
  · intro event mem observer seen
    obtain ⟨before, lawful⟩ := orderly.lawful mem
    cases event <;> cases seen
    obtain ⟨limit, -⟩ := lawful
    rw [limit]
    exact ⟨rfl, rfl⟩
  · intro event mem unseen named
    obtain ⟨before, lawful⟩ := orderly.lawful mem
    obtain ⟨observer, received, rfl⟩ := lawful.message_iff.2.1.1 named
    cases unseen

end

theorem number?_delivered (owner : String) (delivery : Delivery) :
    (Event.delivered owner delivery).record.number? "observer" = some delivery.observer := rfl

theorem number?_detaching (observer received : Nat) :
    (Event.detaching observer received).record.number? "observer" = some observer := rfl

theorem text?_from_delivered (owner : String) (delivery : Delivery) :
    (Event.delivered owner delivery).record.text? "from" = some delivery.previous.label := rfl

theorem text?_to_delivered (owner : String) (delivery : Delivery) :
    (Event.delivered owner delivery).record.text? "to" = some delivery.current.label := rfl

/-- A delivery is read back from its record. -/
theorem Delivery.ofRecord?_record (owner : String) (delivery : Delivery) :
    ofRecord? (Event.delivered owner delivery).record = some delivery := by
  simp [ofRecord?, text?_from_delivered, text?_to_delivered, number?_delivered,
    StateId.parse_label, Except.toOption]

/-- What the log tells of a tracer that leaves. -/
theorem Kept.leaving {plan : Plan} {final : Progress} (kept : Kept plan final)
    {before after : List Trace.Record} {record : Trace.Record}
    (split : final.journal.toList.map Event.record = before ++ record :: after)
    (named : record.message = "observer detaching itself") :
    ∃ observer, Leaving plan final.report record after observer := by
  obtain ⟨past, present, journal, rfl, rest⟩ := List.map_eq_append_iff.1 split
  obtain ⟨event, future, rfl, rfl, rfl⟩ := List.map_eq_cons_iff.1 rest
  obtain ⟨observer, received, rfl⟩ :=
    (kept.orderly past event future journal).lawful.message_iff.2.1.1 named
  obtain ⟨limit, told⟩ := kept.orderly.told_eq journal
  have counted : final.report.receivedBy observer = received := by
    rw [← told, toldIn, kept.deliveries]
    rfl
  exact ⟨observer,
    { known := by
        refine List.mem_range.1 (kept.whole.subset (List.mem_append_left _ ?_))
        simp [journal, Event.leaver?]
      fields := by
        rw [counted]
        rfl
      limit := by rw [counted, limit]
      removed := by
        obtain ⟨left, rest, rfl⟩ := kept.orderly.removed_next kept.settled journal
        exact ⟨left, rfl⟩
      silent := by
        intro later mem tells same
        obtain ⟨event, there, rfl⟩ := List.mem_map.1 mem
        have inside : event ∈ final.journal.toList := by simp [journal, there]
        obtain ⟨sofar, lawful⟩ := kept.orderly.lawful inside
        obtain ⟨delivery, rfl⟩ := lawful.message_iff.1.1 tells
        have mem : delivery ∈ deliveriesIn future := List.mem_filterMap.2 ⟨_, there, rfl⟩
        rw [number?_delivered, Option.some.injEq] at same
        exact kept.orderly.not_told_after journal delivery mem same }⟩

/-- A replay comes to its end, and its log agrees with its report. The deliveries of the report
stand in the log in order and are read back from it. There is one record of leaving for each tracer
that is missing at the end. A tracer leaves with as many deliveries as the plan allows and the
report has for it; its own registration is taken off the roster next, and it is not told of anything
after that. Nobody is passed over, and no removal comes to nothing. -/
theorem log_of_replay (plan : Plan) :
    ∃ report, plan.replay = .ok report ∧ report.Matches plan := by
  obtain ⟨final, ran, kept⟩ := plan.exists_kept
  have journal : plan.journal = final.journal.toList := by rw [Plan.journal, ran]
  have logged (message : String) : plan.logged message =
      (final.journal.toList.map Event.record).filter fun record => record.message = message := by
    rw [Plan.logged, Plan.log, journal]
  have delivered : plan.logged "lifecycle transition delivered" =
      final.report.deliveries.map fun delivery =>
        (Event.delivered plan.owner delivery).record := by
    rw [logged, kept.orderly.filter_delivered, kept.deliveries]
    rfl
  have passed : ∀ record ∈ plan.log,
      record.message ≠ "observer removed before its turn; skipped" ∧
        record.message ≠ "observer not registered; remove ignored" := by
    intro record mem
    rw [Plan.log, journal] at mem
    obtain ⟨event, there, rfl⟩ := List.mem_map.1 mem
    obtain ⟨before, lawful⟩ := kept.orderly.lawful there
    exact lawful.message_iff.2.2
  refine ⟨final.report, by rw [Plan.replay, ran], ?_⟩
  exact
    { delivered
      readBack := by simp [delivered, Delivery.ofRecord?_record]
      left := by
        have all := kept.whole.length_eq
        rw [logged, kept.orderly.filter_detaching, List.length_map]
        simpa [Progress.report, Roster.size_eq_length_handles, Plan.count] using all
      once := by
        have distinct := kept.whole.nodup_iff.2 List.nodup_range
        rw [logged, kept.orderly.filter_detaching, List.map_map]
        refine (List.nodup_append.1 distinct).1.map fun observer other same => ?_
        simpa [number?_detaching] using same
      registered := by
        rw [journal, kept.registrations]
        rfl
      leaving := by
        rw [Plan.log, journal]
        exact fun _ _ _ => kept.leaving
      skipped := List.filter_eq_nil_iff.2 fun record mem => by simpa using (passed record mem).1
      ignored := List.filter_eq_nil_iff.2 fun record mem => by simpa using (passed record mem).2 }

/-- The tracer `0` is the first to leave `screening`, with its second delivery. -/
theorem screening_log :
    ∃ report before after,
      screening.replay = .ok report ∧ report.Matches screening ∧
      screening.log = before ++ ⟨.debug, "observer detaching itself",
        [("observer", .number 0), ("received", .number 2)]⟩ :: after ∧
      report.receivedBy 0 = 2 ∧
      Leaving screening report ⟨.debug, "observer detaching itself",
        [("observer", .number 0), ("received", .number 2)]⟩ after 0 := by
  obtain ⟨report, replayed, agrees⟩ := log_of_replay screening
  have split : screening.log = screening.log.take 10 ++ ⟨.debug, "observer detaching itself",
      [("observer", .number 0), ("received", .number 2)]⟩ :: screening.log.drop 11 := rfl
  obtain ⟨observer, leaving⟩ := agrees.leaving _ _ _ split rfl
  obtain ⟨first, twice⟩ : 0 = (observer : Int) ∧ 2 = (report.receivedBy observer : Int) := by
    simpa using leaving.fields
  obtain rfl : observer = 0 := by omega
  exact ⟨report, _, _, replayed, agrees, split, by omega, leaving⟩

end Replay

end Herald
