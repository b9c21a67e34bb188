import Herald.Proofs.Roster.Holders
import Herald.Proofs.Roster.Level
import Herald.Roster.Report

/-!
# Serial numbers cannot be seen

What a roster has been through shows in the serial numbers of its entries and in the number that
comes next, and nowhere else. Two rosters with the same handles in the same order do the same from
then on (`journals_eq_up_to_numbers`): the same program has the same journal on both, apart from the
numbers that stand in it (`Event.unnumbered`).

The two machines go in lockstep (`Step.lockstep`). Their rosters have the same handles and their
stacks differ in walks only, whose entries are counterparts of each other: an entry stands on one
side exactly if its counterpart stands on the other (`Counterparts`). A walk asks no more of a
number than that, and a call that expels an entry expels its counterpart (`Counterparts.edit`).
-/

namespace Herald

variable {α : Type}

/-- A log record without the fields of a given name. -/
def Trace.Record.without (record : Trace.Record) (name : String) : Trace.Record :=
  { record with fields := record.fields.filter fun field => field.1 ≠ name }

/-- An entry with its number struck out. -/
def Entry.unnumbered (entry : Entry α) : Entry α :=
  { entry with serial := 0 }

/-- A notice with its number struck out. -/
def Notice.unnumbered : Notice α → Notice α
  | .added handle _ observers => .added handle 0 observers
  | .removed handle _ observers => .removed handle 0 observers
  | notice => notice

namespace Roster

/-- An event with all numbers of entries struck out. -/
def Event.unnumbered : Event α → Event α
  | .began level snapshot => .began level (snapshot.map Entry.unnumbered)
  | .visited level entry => .visited level entry.unnumbered
  | .skipped level entry => .skipped level entry.unnumbered
  | .noticed notice => .noticed notice.unnumbered
  | event => event

/-- What an event leaves in a log shows its numbers in the serial fields only. -/
theorem Event.record?_unnumbered (event : Event α) :
    event.unnumbered.record?.map (·.without "serial") =
      event.record?.map (·.without "serial") := by
  cases event with
  | noticed notice => cases notice <;> rfl
  | _ => rfl

/-- Journals that agree up to numbers are logged alike, up to the serial fields. -/
theorem records_eq_of_unnumbered {journal other : List (Event α)}
    (same : other.map Event.unnumbered = journal.map Event.unnumbered) :
    (other.filterMap Event.record?).map (·.without "serial") =
      (journal.filterMap Event.record?).map (·.without "serial") := by
  have logged (events : List (Event α)) :
      (events.filterMap Event.record?).map (·.without "serial") =
        (events.map Event.unnumbered).filterMap fun event =>
          event.record?.map (·.without "serial") := by
    rw [List.map_filterMap, List.filterMap_map]
    exact List.filterMap_congr fun event _ => event.record?_unnumbered.symm
  rw [logged, logged, same]

/-! ## Entries that are known by their numbers -/

/-- The number of an entry has been used up, and no other entry stands under it. -/
structure Known (roster : Roster α) (entry : Entry α) : Prop where
  old : entry.serial < roster.nextSerial
  own : roster.isLive entry.serial → entry ∈ roster.entries

theorem Known.stands_iff {roster : Roster α} {entry : Entry α} (known : Known roster entry) :
    roster.isLive entry.serial ↔ entry ∈ roster.entries :=
  ⟨known.own, fun mem => isLive_iff.2 (List.mem_map_of_mem mem)⟩

theorem WellFormed.known {roster : Roster α} (formed : WellFormed roster) {entry : Entry α}
    (mem : entry ∈ roster.entries) : Known roster entry :=
  ⟨formed.below entry mem, fun _ => mem⟩

/-- Entries of two rosters that differ in their numbers at most: they have one handle, and they
stand both or neither. -/
structure Counterparts (roster other : Roster α) (entry counterpart : Entry α) : Prop where
  handle : counterpart.handle = entry.handle
  known : Known roster entry
  known' : Known other counterpart
  stands : counterpart ∈ other.entries ↔ entry ∈ roster.entries

theorem Counterparts.live_iff {roster other : Roster α} {entry counterpart : Entry α}
    (parts : Counterparts roster other entry counterpart) :
    other.isLive counterpart.serial ↔ roster.isLive entry.serial := by
  rw [parts.known.stands_iff, parts.known'.stands_iff, parts.stands]

theorem Counterparts.unnumbered_eq {roster other : Roster α} {entry counterpart : Entry α}
    (parts : Counterparts roster other entry counterpart) :
    counterpart.unnumbered = entry.unnumbered := by
  rw [Entry.unnumbered, Entry.unnumbered, parts.handle]

/-- The entries of rosters with the same handles are counterparts, place by place. -/
theorem WellFormed.counterparts {roster other : Roster α} (formed : WellFormed roster)
    (formed' : WellFormed other) (same : other.handles = roster.handles) :
    List.Forall₂ (Counterparts roster other) roster.entries other.entries := by
  have handles : List.Forall₂ (fun entry counterpart : Entry α =>
      entry.handle = counterpart.handle) roster.entries other.entries := by
    have equal : List.Forall₂ Eq roster.handles other.handles := by
      rw [List.forall₂_eq_eq_eq, same]
    exact List.forall₂_map_right_iff.1 (List.forall₂_map_left_iff.1 equal)
  obtain ⟨length, paired⟩ := List.forall₂_iff_zip.1 handles
  refine List.forall₂_iff_zip.2 ⟨length, fun mem => ?_⟩
  obtain ⟨left, right⟩ := List.of_mem_zip mem
  exact ⟨(paired mem).symm, formed.known left, formed'.known right, iff_of_true right left⟩

variable [DecidableEq α]

theorem Known.edit {roster : Roster α} (formed : WellFormed roster) {entry : Entry α}
    (known : Known roster entry) (edit : Edit α) : Known (roster.edit edit).1 entry where
  old := Nat.lt_of_lt_of_le known.old (nextSerial_le_edit roster edit)
  own live := by
    obtain ⟨other, mem, same⟩ := List.mem_map.1 (isLive_iff.1 live)
    -- what stands under an old number stood there before the call
    have old : other.serial < roster.nextSerial := same ▸ known.old
    obtain ⟨before, -⟩ := (formed.mem_entries_edit_iff edit old).1 mem
    have stood := known.own (isLive_iff.2 (same ▸ List.mem_map_of_mem before))
    exact formed.eq_of_serial_eq before stood same ▸ mem

/-- A call expels an entry exactly if it expels its counterpart. -/
theorem Counterparts.edit {roster other : Roster α} (formed : WellFormed roster)
    (formed' : WellFormed other) {entry counterpart : Entry α}
    (parts : Counterparts roster other entry counterpart) (edit : Edit α) :
    Counterparts (roster.edit edit).1 (other.edit edit).1 entry counterpart where
  handle := parts.handle
  known := parts.known.edit formed edit
  known' := parts.known'.edit formed' edit
  stands := by
    rw [formed.mem_entries_edit_iff edit parts.known.old,
      formed'.mem_entries_edit_iff edit parts.known'.old, parts.stands, parts.handle]

/-! ## Calls -/

/-- The handles that are registered after a call depend on those before it alone. -/
theorem handles_edit_congr {roster other : Roster α} (same : other.handles = roster.handles)
    (edit : Edit α) : (other.edit edit).1.handles = (roster.edit edit).1.handles := by
  cases edit with
  | add handle => simp only [Roster.edit, handles_add, same]
  | remove handle => simp only [Roster.edit, handles_remove, same]
  | clear => rfl

/-- The handles that are registered after some calls depend on those before them alone. -/
theorem handles_after_congr {roster other : Roster α} (same : other.handles = roster.handles)
    (edits : List (Edit α)) : (other.after edits).handles = (roster.after edits).handles := by
  induction edits generalizing roster other with
  | nil => exact same
  | cons edit edits ih => exact ih (handles_edit_congr same edit)

theorem contains_congr {roster other : Roster α} (same : other.handles = roster.handles)
    (handle : α) : other.contains handle = roster.contains handle := by
  rw [Bool.eq_iff_iff, contains_iff, contains_iff, same]

omit [DecidableEq α] in
theorem size_congr {roster other : Roster α} (same : other.handles = roster.handles) :
    other.size = roster.size := by
  rw [size_eq_length_handles, size_eq_length_handles, same]

/-- What a removal answers, up to the number. -/
theorem unnumbered_remove (roster : Roster α) (handle : α) :
    (roster.remove handle).2.unnumbered =
      if roster.contains handle then .removed handle 0 (roster.remove handle).1.size
      else .removeIgnored handle := by
  cases found : roster.entries.find? fun entry => decide (entry.handle = handle) with
  | none =>
      have absent : ¬ roster.contains handle := by
        simpa [contains] using List.find?_eq_none.1 found
      simp [remove, found, absent, Notice.unnumbered]
  | some entry =>
      have matches' := List.find?_some found
      have present : roster.contains handle :=
        List.any_eq_true.2 ⟨entry, List.mem_of_find?_eq_some found, matches'⟩
      simp [remove, found, present, Notice.unnumbered, size]

/-- What a call answers, up to the number, depends on the handles alone. -/
theorem unnumbered_edit_congr {roster other : Roster α} (same : other.handles = roster.handles)
    (edit : Edit α) :
    (other.edit edit).2.unnumbered = (roster.edit edit).2.unnumbered := by
  have contains := contains_congr same
  have sizes := size_congr (handles_edit_congr same edit)
  cases edit with
  | add handle =>
      simp only [Roster.edit, Roster.add, contains, size_congr same]
      split <;> rfl
  | remove handle =>
      simp only [Roster.edit] at sizes ⊢
      rw [unnumbered_remove, unnumbered_remove, contains, sizes]
  | clear => simp only [Roster.edit, Roster.clear, size_congr same]

/-! ## Configurations -/

/-- Frames that are the same but for the numbers of the entries of a walk, over two rosters. -/
inductive Frame.Alike (roster other : Roster α) : Frame α → Frame α → Prop where
  | same {frame} (noWalk : frame.isWalk = false) : Alike roster other frame frame
  | walk {walk : Walk α} {snapshot pending : List (Entry α)}
      (held : snapshot.map Entry.handle = walk.snapshot.map Entry.handle)
      (parts : List.Forall₂ (Counterparts roster other) walk.pending pending) :
      Alike roster other (.walk walk) (.walk { walk with snapshot, pending })

/-- Stacks that are the same but for the numbers of entries. -/
abbrev StacksAlike (roster other : Roster α) : List (Frame α) → List (Frame α) → Prop :=
  List.Forall₂ (Frame.Alike roster other)

/-- States of the machine that are the same but for the numbers of entries. -/
inductive Alike : Config α → Config α → Prop where
  | intro {roster other : Roster α} {pool access frames frames' signal}
      (handles : other.handles = roster.handles) (stack : StacksAlike roster other frames frames') :
      Alike ⟨⟨roster, pool, access⟩, frames, signal⟩ ⟨⟨other, pool, access⟩, frames', signal⟩

section
variable {roster other : Roster α} {frame frame' : Frame α} {frames frames' : List (Frame α)}

omit [DecidableEq α] in
theorem Frame.Alike.held_eq (alike : Frame.Alike roster other frame frame') :
    frame'.held = frame.held := by
  cases alike with
  | same => rfl
  | walk held => exact held

omit [DecidableEq α] in
theorem Frame.Alike.isWalk_eq (alike : Frame.Alike roster other frame frame') :
    frame'.isWalk = frame.isWalk := by
  cases alike <;> rfl

omit [DecidableEq α] in
theorem StacksAlike.level_eq (stack : StacksAlike roster other frames frames') :
    level frames' = level frames :=
  level_congr (stack.imp fun _ _ alike => alike.isWalk_eq)

omit [DecidableEq α] in
theorem StacksAlike.holds_iff (stack : StacksAlike roster other frames frames') {handle : α} :
    Holds frames' handle ↔ Holds frames handle :=
  holds_congr (stack.imp fun _ _ alike => alike.held_eq)

/-- A handle has a holder on one side exactly if it has one on the other. -/
theorem StacksAlike.isHeld_eq (stack : StacksAlike roster other frames frames')
    (same : other.handles = roster.handles) (pool : List α) (access : Access) (handle : α) :
    isHeld ⟨other, pool, access⟩ frames' handle = isHeld ⟨roster, pool, access⟩ frames handle := by
  rw [Bool.eq_iff_iff, isHeld_iff, isHeld_iff, same, stack.holds_iff]

/-- Stacks stay alike when both rosters take a call. -/
theorem StacksAlike.edit (formed : WellFormed roster) (formed' : WellFormed other)
    (stack : StacksAlike roster other frames frames') (edit : Edit α) :
    StacksAlike (roster.edit edit).1 (other.edit edit).1 frames frames' := by
  refine stack.imp fun frame frame' alike => ?_
  cases alike with
  | same noWalk => exact .same noWalk
  | walk held parts =>
      exact .walk held (parts.imp fun _ _ parts => parts.edit formed formed' edit)

end

/-! ## Lockstep -/

omit [DecidableEq α] in
/-- Walks that begin on rosters with the same handles are alike. -/
theorem WellFormed.begin_alike {roster other : Roster α} (formed : WellFormed roster)
    (formed' : WellFormed other) (same : other.handles = roster.handles)
    (turns : List (Script α)) (on : List (α × Script α)) (catching : Bool) (scope : List α) :
    Frame.Alike roster other (.walk (.begin roster turns on catching scope))
      (.walk (.begin other turns on catching scope)) :=
  have parts := formed.counterparts formed' same
  @Frame.Alike.walk _ _ _ (.begin roster turns on catching scope) _ _ same parts

omit [DecidableEq α] in
theorem unnumbered_entries {roster other : Roster α} (same : other.handles = roster.handles) :
    other.entries.map Entry.unnumbered = roster.entries.map Entry.unnumbered := by
  have struck (entries : List (Entry α)) :
      entries.map Entry.unnumbered = (entries.map Entry.handle).map (Entry.mk 0) := by
    rw [List.map_map]
    rfl
  rw [struck, struck]
  exact congrArg _ same

/-- What a target stands for is not a matter of the roster. -/
theorem resolve_congr (roster other : Roster α) (pool : List α) (access : Access) (scope : List α)
    (target : Target α) :
    World.resolve ⟨other, pool, access⟩ scope target =
      World.resolve ⟨roster, pool, access⟩ scope target := by
  cases target <;> rfl

/-- What an action reads off a roster is a matter of its handles. -/
theorem reading?_congr {roster other : Roster α} (same : other.handles = roster.handles)
    (pool : List α) (access : Access) (scope : List α) (action : Action α) :
    action.reading? ⟨other, pool, access⟩ scope = action.reading? ⟨roster, pool, access⟩ scope := by
  have empty : other.isEmpty = roster.isEmpty := by
    rw [Bool.eq_iff_iff, isEmpty_iff, isEmpty_iff, same]
  cases action with
  | contains target => simp only [Action.reading?, resolve_congr roster other, contains_congr same]
  | size => simp only [Action.reading?, size_congr same]
  | isEmpty => simp only [Action.reading?, empty]
  | «show» layout => simp only [Action.reading?, shown, size_congr same]
  | _ => rfl

/-- An action begins alike on rosters with the same handles. -/
theorem Performs.lockstep {roster other : Roster α} {pool : List α} {access : Access}
    {scope : List α} {frames frames' : List (Frame α)} {action : Action α}
    {events : List (Event α)} {next : Config α} (formed : WellFormed roster)
    (formed' : WellFormed other) (same : other.handles = roster.handles)
    (stack : StacksAlike roster other frames frames')
    (performs : Performs ⟨roster, pool, access⟩ scope frames action events next) :
    ∃ events' next', Performs ⟨other, pool, access⟩ scope frames' action events' next' ∧
      events'.map Event.unnumbered = events.map Event.unnumbered ∧ Alike next next' := by
  have called (edit : Edit α) := handles_edit_congr same edit
  have told (edit : Edit α) : [Event.noticed (other.edit edit).2].map Event.unnumbered =
      [Event.noticed (roster.edit edit).2].map Event.unnumbered := by
    simp only [List.map_cons, List.map_nil, Event.unnumbered, unnumbered_edit_congr same]
  have stack' (edit : Edit α) := stack.edit formed formed' edit
  cases performs with
  | misaimed aimed nothing =>
      exact ⟨_, _, .misaimed aimed ((resolve_congr ..).trans nothing), rfl, .intro same stack⟩
  | @add target handle aimed =>
      refine ⟨_, _, .add ((resolve_congr ..).trans aimed), told (.add handle), ?_⟩
      simp only [contains_congr same]
      exact .intro (called (.add handle))
        (.cons (.same rfl) (.cons (.same rfl) (stack' (.add handle))))
  | @remove target handle aimed =>
      refine ⟨_, _, .remove ((resolve_congr ..).trans aimed), told (.remove handle), ?_⟩
      simp only [contains_congr same]
      exact .intro (called (.remove handle))
        (.cons (.same rfl) (.cons (.same rfl) (stack' (.remove handle))))
  | clear =>
      refine ⟨_, _, .clear, told .clear, ?_⟩
      simp only [same]
      exact .intro (called .clear) (.cons (.same rfl) (.cons (.same rfl) (stack' .clear)))
  | answer reading =>
      exact ⟨_, _, .answer ((reading?_congr same ..).trans reading), rfl,
        .intro same (.cons (.same rfl) stack)⟩
  | release pooled =>
      exact ⟨_, _, .release pooled, rfl, .intro same (.cons (.same rfl) stack)⟩
  | releaseNothing notPooled =>
      exact ⟨_, _, .releaseNothing notPooled, rfl, .intro same stack⟩
  | fail => exact ⟨_, _, .fail, rfl, .intro same stack⟩
  | forEach =>
      refine ⟨_, _, .forEach, ?_,
        .intro same (.cons (.same rfl) (.cons (formed.begin_alike formed' same ..) stack))⟩
      simp only [List.map_cons, List.map_nil, Event.unnumbered, unnumbered_entries same,
        stack.level_eq]

/-- A step on one side has a step on the other side, in which the same happens. Whatever dies has
the same hook on both sides. -/
theorem Step.lockstep {first second : Program α} {here there next : Config α}
    {events : List (Event α)} (alike : Alike here there)
    (formed : WellFormed here.world.roster) (formed' : WellFormed there.world.roster)
    (hooks : ∀ handle, isHeld here.world here.frames handle →
      second.hook? handle = first.hook? handle)
    (step : Step first here events next) :
    ∃ events' next', Step second there events' next' ∧
      events'.map Event.unnumbered = events.map Event.unnumbered ∧ Alike next next' := by
  cases alike with
  | @intro roster other pool access frames frames' signal same stack =>
  cases stack with
  | nil => cases step
  | @cons frame frame' below below' top stack =>
  have held (cause : Cause) (handles : List α) (next : Signal) (handle : α) :
      isHeld ⟨other, pool, access⟩ (.letGo cause handles next :: below') handle =
        isHeld ⟨roster, pool, access⟩ (.letGo cause handles next :: below) handle :=
    StacksAlike.isHeld_eq (.cons (.same rfl) stack) same pool access handle
  have depth := StacksAlike.level_eq stack
  cases top with
  | same noWalk =>
      -- the topmost work is the same on both sides
      cases step with
      | perform code performs =>
          have advanced : Frame.Alike roster other frame.advance frame.advance := by
            cases code <;> exact .same rfl
          obtain ⟨events', next', performs', told, alike⟩ :=
            performs.lockstep formed formed' same (.cons advanced stack)
          exact ⟨events', next', .perform code performs', told, alike⟩
      | stepsDone => exact ⟨_, _, .stepsDone, rfl, .intro same stack⟩
      | stepEnd =>
          refine ⟨_, _, .stepEnd, ?_, .intro same (.cons (.same rfl) stack)⟩
          simp only [same]
      | stepFault =>
          refine ⟨_, _, .stepFault, ?_, .intro same (.cons (.same rfl) stack)⟩
          simp only [same]
      | givenUp => exact ⟨_, _, .givenUp, rfl, .intro same stack⟩
      | scriptDone =>
          refine ⟨_, _, .scriptDone, ?_, .intro same stack⟩
          simp only [returnEvents, depth]
      | told => exact ⟨_, _, .told, rfl, .intro same (.cons (.same rfl) stack)⟩
      | scriptStop =>
          refine ⟨_, _, .scriptStop, ?_, .intro same stack⟩
          simp only [returnEvents, depth]
      | walkDone | visit | skip | walkStop => cases noWalk
      | settled => exact ⟨_, _, .settled, rfl, .intro same stack⟩
      | kept keeps =>
          exact ⟨_, _, .kept ((held ..).trans keeps), rfl, .intro same (.cons (.same rfl) stack)⟩
      | @died _ _ handle _ _ _ _ last unhooked =>
          have hook := hooks handle (isHeld_iff.2 (by simp))
          exact ⟨_, _, .died ((held ..) ▸ last) (hook.trans unhooked), rfl,
            .intro same (.cons (.same rfl) stack)⟩
      | @diedHooked _ _ handle _ _ _ _ _ last hooked =>
          have hook := hooks handle (isHeld_iff.2 (by simp))
          exact ⟨_, _, .diedHooked ((held ..) ▸ last) (hook.trans hooked), rfl,
            .intro same (.cons (.same rfl) (.cons (.same rfl) (.cons (.same rfl) stack)))⟩
      | hookEnd => exact ⟨_, _, .hookEnd, rfl, .intro same stack⟩
      | unlock => exact ⟨_, _, .unlock, rfl, .intro same stack⟩
  | @walk walk snapshot pending snapshots parts =>
      -- a walk and its counterpart have come equally far
      cases step with
      | perform code => cases code
      | walkDone calm done =>
          rw [done, List.forall₂_nil_left_iff] at parts
          refine ⟨_, _, .walkDone calm parts, ?_, ?_⟩
          · simp only [depth]
          · simp only [snapshots]
            exact .intro same (.cons (.same rfl) stack)
      | visit calm turn live =>
          rw [turn, List.forall₂_cons_left_iff] at parts
          obtain ⟨counterpart, rest, part, parts, turn'⟩ := parts
          refine ⟨_, _, .visit calm turn' (part.live_iff.2 live), ?_, ?_⟩
          · simp only [List.map_cons, List.map_nil, Event.unnumbered, part.unnumbered_eq,
              depth]
          · simp only [part.handle]
            exact .intro same (.cons (.same rfl) (.cons (.same rfl)
              (.cons (.walk snapshots parts) stack)))
      | skip calm turn gone =>
          rw [turn, List.forall₂_cons_left_iff] at parts
          obtain ⟨counterpart, rest, part, parts, turn'⟩ := parts
          refine ⟨_, _, .skip calm turn' (fun live => gone (part.live_iff.1 live)), ?_, ?_⟩
          · simp only [List.map_cons, List.map_nil, Event.unnumbered, part.unnumbered_eq,
              depth]
          · exact .intro same (.cons (.same rfl) (.cons (.walk snapshots parts) stack))
      | walkStop =>
          refine ⟨_, _, .walkStop, ?_, ?_⟩
          · simp only [depth]
          · simp only [snapshots]
            exact .intro same (.cons (.same rfl) stack)

/-! ## Runs -/

/-- Runs that are alike stay alike for any number of steps, and the same happens in them. -/
theorem Run.advance_alike {first second : Program α} {here there : Config α}
    {past past' : List (Event α)} (run : Run first past here) (run' : Run second past' there)
    (alike : Alike here there)
    (hooks : ∀ handle, isHeld here.world here.frames handle →
      second.hook? handle = first.hook? handle)
    (steps : Nat) {journal journal' : Array (Event α)}
    (told : journal'.toList.map Event.unnumbered = journal.toList.map Event.unnumbered) :
    (there.advance second steps journal').2.toList.map Event.unnumbered =
        (here.advance first steps journal).2.toList.map Event.unnumbered ∧
      Alike (here.advance first steps journal).1 (there.advance second steps journal').1 := by
  induction steps generalizing past past' here there journal journal' with
  | zero => exact ⟨told, alike⟩
  | succ steps ih =>
      have sound := Run.sound run
      have sound' := Run.sound run'
      cases stepped : here.step? first with
      | none =>
          have rest := sound.frames_eq_nil_of_step? stepped
          have rest' : there.frames = [] := by
            cases alike with
            | intro same stack =>
                obtain rfl : _ = [] := rest
                exact List.forall₂_nil_left_iff.1 stack
          have stepped' : there.step? second = none := Config.step?_eq_none_iff.2 (.inl rest')
          simp only [Machine.advance, stepped, stepped']
          exact ⟨told, alike⟩
      | some result =>
          obtain ⟨next, events⟩ := result
          have step := sound.step_of_step? stepped
          obtain ⟨events', next', step', happened, alike'⟩ :=
            step.lockstep alike run.wellFormed run'.wellFormed hooks
          have stepped' := step'.step?_eq sound'.ready sound'.access_ne_broken
          simp only [Machine.advance, stepped, stepped']
          -- what is held after the step was held before, so its hook is still the same
          refine ih (run.step stepped) (run'.step stepped') alike' ?_ ?_
          · exact fun handle held => hooks handle (step.isHeld_of_isHeld sound held)
          · simp only [Array.toList_appendList, List.map_append, told, happened]

omit [DecidableEq α] in
/-- Over rosters with the same handles, a stack without a walk is like itself. -/
theorem StacksAlike.of_level_eq_zero {roster other : Roster α} {frames : List (Frame α)}
    (noWalk : level frames = 0) : StacksAlike roster other frames frames := by
  refine List.forall₂_same.2 fun frame mem => .same ?_
  simpa using List.countP_eq_zero.1 noWalk frame mem

/-- Let the machine stand at two points of any two runs that differ in the roster only. No walk is
under way, the rosters have the same handles in the same order, and whatever is still held has the
same hook in both programs; the entries, their numbers and the number that comes next may differ.
Then after any number of steps the same has happened on both sides, apart from the numbers of
entries: the same values, faults, visits and deaths, and after each step of the programs the same
handles in the same order. The logs differ in serial fields at most. -/
theorem journals_eq_up_to_numbers {first second : Program α} {world : World α}
    {roster other : Roster α} {frames : List (Frame α)} {signal : Signal}
    {past past' : List (Event α)}
    (run : Run first past ⟨{ world with roster }, frames, signal⟩)
    (run' : Run second past' ⟨{ world with roster := other }, frames, signal⟩)
    (noWalk : level frames = 0) (same : other.handles = roster.handles)
    (hooks : ∀ handle, isHeld { world with roster } frames handle →
      second.hook? handle = first.hook? handle) (steps : Nat) :
    let here := Config.advance first steps ⟨{ world with roster }, frames, signal⟩ #[]
    let there := Config.advance second steps ⟨{ world with roster := other }, frames, signal⟩ #[]
    there.2.toList.map Event.unnumbered = here.2.toList.map Event.unnumbered ∧
      (there.2.toList.filterMap Event.record?).map (·.without "serial") =
        (here.2.toList.filterMap Event.record?).map (·.without "serial") ∧
      there.1.world.roster.handles = here.1.world.roster.handles ∧
      there.1.world.pool = here.1.world.pool ∧
      there.1.signal = here.1.signal ∧
      (there.1.frames = [] ↔ here.1.frames = []) := by
  intro here there
  have alike : Alike (⟨{ world with roster }, frames, signal⟩ : Config α)
      ⟨{ world with roster := other }, frames, signal⟩ :=
    .intro same (.of_level_eq_zero noWalk)
  have nothing : (#[] : Array (Event α)).toList.map Event.unnumbered =
      (#[] : Array (Event α)).toList.map Event.unnumbered := rfl
  obtain ⟨told, alike'⟩ := Run.advance_alike run run' alike hooks steps nothing
  refine ⟨told, records_eq_of_unnumbered told, ?_⟩
  change Alike here.1 there.1 at alike'
  generalize here.1 = reached at alike' ⊢
  generalize there.1 = reached' at alike' ⊢
  cases alike' with
  | intro same stack =>
      refine ⟨same, rfl, rfl, ?_⟩
      constructor
      · rintro rfl
        exact List.forall₂_nil_right_iff.1 stack
      · rintro rfl
        exact List.forall₂_nil_left_iff.1 stack

/-- `reentrant` over a roster that has been in use before. -/
def reentrantLater : Program Nat :=
  { reentrant with
    steps := [.add (.named 2), .clear, .add (.named 0), .remove (.named 0)] ++ reentrant.steps }

/-- When `reentrant` has registered its handles, their numbers are 0, 1 and 2, and in
`reentrantLater` they are 2, 3 and 4. What follows is the same. -/
theorem reentrant_up_to_numbers :
    let world : World Nat := { pool := [0, 1, 2] }
    let first : Roster Nat := ⟨[⟨0, 0⟩, ⟨1, 1⟩, ⟨2, 2⟩], 3⟩
    let second : Roster Nat := ⟨[⟨2, 0⟩, ⟨3, 1⟩, ⟨4, 2⟩], 5⟩
    let frames : List (Frame Nat) := [.steps (reentrant.steps.drop 3)]
    Run reentrant (reentrant.start.advance reentrant 12 #[]).2.toList
        ⟨{ world with roster := first }, frames, .proceed⟩ ∧
      Run reentrantLater (reentrantLater.start.advance reentrantLater 30 #[]).2.toList
        ⟨{ world with roster := second }, frames, .proceed⟩ ∧
      level frames = 0 ∧ second.handles = first.handles ∧
      (Config.advance reentrantLater 70 ⟨{ world with roster := second }, frames, .proceed⟩
          #[]).2.toList.map Event.unnumbered =
        (Config.advance reentrant 70 ⟨{ world with roster := first }, frames, .proceed⟩
          #[]).2.toList.map Event.unnumbered := by
  intro world first second frames
  have run : Run reentrant _ ⟨{ world with roster := first }, frames, .proceed⟩ :=
    reentrant.advance_isRun 12
  have run' : Run reentrantLater _ ⟨{ world with roster := second }, frames, .proceed⟩ :=
    reentrantLater.advance_isRun 30
  exact ⟨run, run', rfl, rfl,
    (@journals_eq_up_to_numbers _ _ _ _ world _ _ _ _ _ _ run run' rfl rfl (fun _ _ => rfl) 70).1⟩

end Roster

end Herald
