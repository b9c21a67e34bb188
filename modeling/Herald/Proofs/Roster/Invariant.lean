import Herald.Proofs.Roster.Change
import Mathlib.Data.List.Basic
import Mathlib.Data.List.Nodup

/-!
# Handles and serial numbers of a roster

`WellFormed` is what every roster satisfies at every point of every run: no handle is registered
twice, and the serial numbers grow along the roster and stay below the next one. Each call keeps it
(`WellFormed.edit`). The number of the next registration never goes down, so a registration is known
by its number for ever: an entry still stands after some calls exactly if none of them has expelled
its handle (`WellFormed.isLive_after_iff`), whatever else has been registered meanwhile.
-/

namespace Herald.Roster

variable {α : Type}

/-- No handle is registered twice, and serial numbers grow and are used up. -/
structure WellFormed (roster : Roster α) : Prop where
  distinct : roster.handles.Nodup
  increasing : (roster.entries.map Entry.serial).Pairwise (· < ·)
  below : ∀ entry ∈ roster.entries, entry.serial < roster.nextSerial

theorem wellFormed_empty : WellFormed (empty : Roster α) :=
  ⟨List.nodup_nil, List.Pairwise.nil, by simp [empty]⟩

/-- An entry is known by its serial number. -/
theorem WellFormed.eq_of_serial_eq {roster : Roster α} (formed : WellFormed roster)
    {first second : Entry α} (hfirst : first ∈ roster.entries) (hsecond : second ∈ roster.entries)
    (same : first.serial = second.serial) : first = second := by
  have unique : (roster.entries.map Entry.serial).Nodup := formed.increasing.imp Nat.ne_of_lt
  exact List.inj_on_of_nodup_map unique hfirst hsecond same

/-- Fewer entries in the same order, with the numbering as it was. -/
theorem WellFormed.of_sublist {roster : Roster α} (formed : WellFormed roster)
    {entries : List (Entry α)} (fewer : entries.Sublist roster.entries) :
    WellFormed { roster with entries } where
  distinct := formed.distinct.sublist (fewer.map _)
  increasing := formed.increasing.sublist (fewer.map _)
  below entry mem := formed.below entry (fewer.subset mem)

variable [DecidableEq α]

/-! ## Calls keep rosters well formed -/

theorem WellFormed.add {roster : Roster α} (formed : WellFormed roster) (handle : α) :
    WellFormed (roster.add handle).1 := by
  unfold Roster.add
  split
  · exact formed
  · next absent =>
    have new : handle ∉ roster.handles := fun mem => absent (contains_iff.2 mem)
    refine ⟨?_, ?_, ?_⟩
    · have others : ∀ entry ∈ roster.entries, entry.handle ≠ handle := by
        intro entry mem same
        exact new (List.mem_map.2 ⟨entry, mem, same⟩)
      simpa [handles, List.nodup_append] using ⟨formed.distinct, others⟩
    · simpa [List.pairwise_append] using ⟨formed.increasing, formed.below⟩
    · intro entry mem
      obtain old | rfl : entry ∈ roster.entries ∨ entry = ⟨roster.nextSerial, handle⟩ := by
        simpa using mem
      · exact Nat.lt_succ_of_lt (formed.below entry old)
      · exact Nat.lt_succ_self _

/-- A removal takes out the first entry of the handle. -/
theorem entries_remove (roster : Roster α) (handle : α) :
    (roster.remove handle).1.entries =
      roster.entries.eraseP fun entry => decide (entry.handle = handle) := by
  unfold Roster.remove
  split
  · next none =>
    exact (List.eraseP_of_forall_not fun entry mem => List.find?_eq_none.1 none entry mem).symm
  · rfl

theorem WellFormed.remove {roster : Roster α} (formed : WellFormed roster) (handle : α) :
    WellFormed (roster.remove handle).1 := by
  have same : (roster.remove handle).1 = { roster with
      entries := roster.entries.eraseP fun entry => decide (entry.handle = handle) } := by
    rw [← entries_remove, ← nextSerial_remove roster handle]
  rw [same]
  exact formed.of_sublist (List.eraseP_sublist)

omit [DecidableEq α] in
theorem WellFormed.clear {roster : Roster α} (formed : WellFormed roster) :
    WellFormed roster.clear.1 :=
  formed.of_sublist (List.nil_sublist _)

theorem WellFormed.edit {roster : Roster α} (formed : WellFormed roster) (edit : Edit α) :
    WellFormed (roster.edit edit).1 := by
  cases edit with
  | add handle => exact formed.add handle
  | remove handle => exact formed.remove handle
  | clear => exact formed.clear

theorem WellFormed.after {roster : Roster α} (formed : WellFormed roster) (edits : List (Edit α)) :
    WellFormed (roster.after edits) := by
  induction edits generalizing roster with
  | nil => exact formed
  | cons edit edits ih => exact ih (formed.edit edit)

/-! ## Serial numbers over calls -/

theorem nextSerial_le_edit (roster : Roster α) (edit : Edit α) :
    roster.nextSerial ≤ (roster.edit edit).1.nextSerial := by
  cases edit with
  | add handle =>
      rw [Roster.edit, nextSerial_add]
      split <;> omega
  | remove handle => exact Nat.le_of_eq (nextSerial_remove roster handle).symm
  | clear => exact Nat.le_refl _

theorem nextSerial_le_after (roster : Roster α) (edits : List (Edit α)) :
    roster.nextSerial ≤ (roster.after edits).nextSerial := by
  induction edits generalizing roster with
  | nil => exact Nat.le_refl _
  | cons edit edits ih => exact Nat.le_trans (nextSerial_le_edit roster edit) (ih _)

/-- An entry with a number that was given before a call stands after the call exactly if it stood
before and the call has not expelled its handle. -/
theorem WellFormed.mem_entries_edit_iff {roster : Roster α} (formed : WellFormed roster)
    (edit : Edit α) {entry : Entry α} (old : entry.serial < roster.nextSerial) :
    entry ∈ (roster.edit edit).1.entries ↔
      entry ∈ roster.entries ∧ ¬ edit.Expels entry.handle := by
  cases edit with
  | add handle =>
      have notNew : entry ≠ ⟨roster.nextSerial, handle⟩ := by
        rintro rfl
        exact absurd old (Nat.lt_irrefl _)
      rw [Roster.edit, Roster.add]
      split <;> simp [notNew]
  | remove handle =>
      rw [Roster.edit, entries_remove]
      by_cases named : entry.handle = handle
      · -- handles are distinct, so the entry that is taken out is the only one of the handle
        have gone :
            entry ∉ roster.entries.eraseP fun entry => decide (entry.handle = handle) := by
          intro mem
          have := List.mem_map_of_mem (f := Entry.handle) mem
          rw [map_handle_eraseP, named] at this
          exact formed.distinct.not_mem_erase this
        simp [gone, named]
      · rw [List.mem_eraseP_of_neg (by simpa using named)]
        simp [Ne.symm named]
  | clear => simp [Roster.edit, Roster.clear]

theorem WellFormed.mem_entries_after_iff {roster : Roster α} (formed : WellFormed roster)
    (edits : List (Edit α)) {entry : Entry α} (old : entry.serial < roster.nextSerial) :
    entry ∈ (roster.after edits).entries ↔
      entry ∈ roster.entries ∧ ∀ edit ∈ edits, ¬ edit.Expels entry.handle := by
  induction edits generalizing roster with
  | nil => simp
  | cons edit edits ih =>
      have old' := Nat.lt_of_lt_of_le old (nextSerial_le_edit roster edit)
      rw [after_cons, ih (formed.edit edit) old', formed.mem_entries_edit_iff edit old]
      simp [and_assoc]

/-- The registration of an entry stands after some calls exactly if none of them has expelled its
handle. A later registration of the handle has another number. -/
theorem WellFormed.isLive_after_iff {roster : Roster α} (formed : WellFormed roster)
    (edits : List (Edit α)) {entry : Entry α} (mem : entry ∈ roster.entries) :
    (roster.after edits).isLive entry.serial ↔ ∀ edit ∈ edits, ¬ edit.Expels entry.handle := by
  have old := formed.below entry mem
  have stands := formed.mem_entries_after_iff edits old
  rw [isLive_iff, List.mem_map]
  constructor
  · rintro ⟨other, hother, same⟩
    have oldOther : other.serial < roster.nextSerial := same ▸ old
    -- numbers are not used again, so what stands under the number is the entry itself
    have : other = entry := formed.eq_of_serial_eq
      ((formed.mem_entries_after_iff edits oldOther).1 hother).1 mem same
    exact (stands.1 (this ▸ hother)).2
  · intro kept
    exact ⟨entry, stands.2 ⟨mem, kept⟩, rfl⟩

/-- A call that puts an entry into the roster stamps it with the next number. -/
theorem serial_of_mem_edit {roster : Roster α} {edit : Edit α} {entry : Entry α}
    (mem : entry ∈ (roster.edit edit).1.entries) (new : entry ∉ roster.entries) :
    entry.serial = roster.nextSerial ∧
      (roster.edit edit).1.nextSerial = roster.nextSerial + 1 := by
  cases edit with
  | add handle =>
      rw [Roster.edit, Roster.add] at mem ⊢
      split at mem
      · exact absurd mem new
      · next absent =>
        obtain old | rfl : entry ∈ roster.entries ∨ entry = ⟨roster.nextSerial, handle⟩ := by
          simpa using mem
        · exact absurd old new
        · simp [absent]
  | remove handle =>
      rw [Roster.edit, entries_remove] at mem
      exact absurd (List.mem_of_mem_eraseP mem) new
  | clear => simp [Roster.edit, Roster.clear] at mem

/-! ## Runs -/

/-- An entry stands after a step and did not stand before it. -/
def Inserts (config next : Config α) (entry : Entry α) : Prop :=
  entry ∈ next.world.roster.entries ∧ entry ∉ config.world.roster.entries

variable {program : Program α} {start config next : Config α} {journal events : List (Event α)}

/-- The number of the next registration never goes down. -/
theorem Steps.nextSerial_le (sound : Sound start) (steps : Steps program start journal config) :
    start.world.roster.nextSerial ≤ config.world.roster.nextSerial := by
  rw [Steps.roster sound steps]
  exact nextSerial_le_after _ _

/-- A step that registers an entry stamps it with the next number and uses that number up. -/
theorem Step.serial_of_inserts {entry : Entry α} (step : Step program config events next)
    (inserts : Inserts config next entry) :
    entry.serial = config.world.roster.nextSerial ∧
      next.world.roster.nextSerial = config.world.roster.nextSerial + 1 := by
  obtain ⟨mem, new⟩ := inserts
  rw [step.roster, step.history_events] at mem ⊢
  cases call : config.call? with
  | none => exact absurd (by simpa [call] using mem) new
  | some edit => exact serial_of_mem_edit (by simpa [call] using mem) new

theorem Run.wellFormed (run : Run program journal config) : WellFormed config.world.roster := by
  rw [run.roster]
  exact wellFormed_empty.after _

/-- At every point of every run no handle is registered twice, and the serial numbers grow along the
roster and stay below the next one. From there on the next number never goes down, and an entry that
is registered has a lower number than all that are registered later. -/
theorem roster_wellFormed_of_run (run : Run program journal config) :
    WellFormed config.world.roster ∧
      (∀ between later, Steps program config between later →
        config.world.roster.nextSerial ≤ later.world.roster.nextSerial) ∧
      ∀ next events, config.step? program = some (next, events) →
        ∀ entry, Inserts config next entry →
          entry.serial = config.world.roster.nextSerial ∧
            ∀ between later final more other, Steps program next between later →
              later.step? program = some (final, more) → Inserts later final other →
                entry.serial < other.serial := by
  have sound := Run.sound run
  refine ⟨run.wellFormed, fun _ _ steps => steps.nextSerial_le sound, ?_⟩
  intro next events stepped entry inserts
  have step := sound.step_of_step? stepped
  obtain ⟨serial, used⟩ := step.serial_of_inserts inserts
  refine ⟨serial, ?_⟩
  intro between later final more other steps stepped' inserts'
  -- the later number is at least the next one after the step, and that one is greater
  have sound' := sound.step step
  have step' := (steps.sound sound').step_of_step? stepped'
  have grown := steps.nextSerial_le sound'
  have serial' := (step'.serial_of_inserts inserts').1
  omega

/-- The run of `reentrant` registers six times, twice after a clearing. -/
theorem reentrant_wellFormed :
    Run reentrant reentrant.run.2.toList reentrant.run.1 ∧
      reentrant.run.1.world.roster = ⟨[⟨5, 2⟩], 6⟩ ∧ WellFormed reentrant.run.1.world.roster :=
  ⟨reentrant.run_isRun, rfl, (roster_wellFormed_of_run reentrant.run_isRun).1⟩

end Herald.Roster
