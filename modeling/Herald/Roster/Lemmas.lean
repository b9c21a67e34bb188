import Herald.Roster.Basic

/-!
# What the operations of a roster do

Each operation, seen through the two views of a roster: the handles in their order, and the serial
numbers. A registration puts a new handle at the end (`handles_add`), a removal takes one out and
keeps the order of the others (`handles_remove`), and only an accepted registration uses a serial
number up (`nextSerial_add`).
-/

namespace Herald.Roster

variable {α : Type}

/-! ## Without comparing handles -/

theorem size_eq_length_handles (roster : Roster α) : roster.size = roster.handles.length := by
  simp [size, handles]

theorem isEmpty_iff {roster : Roster α} : roster.isEmpty ↔ roster.handles = [] := by
  simp [isEmpty, handles]

theorem isLive_iff {roster : Roster α} {serial : Nat} :
    roster.isLive serial ↔ serial ∈ roster.entries.map Entry.serial := by
  simp [isLive]

theorem handles_clear (roster : Roster α) : roster.clear.1.handles = [] := rfl

/-! ### Turns -/

@[simp] theorem turn_nil (roster : Roster α) : roster.turn [] = .done := rfl

theorem turn_of_live {roster : Roster α} {entry : Entry α} (live : roster.isLive entry.serial)
    (pending : List (Entry α)) : roster.turn (entry :: pending) = .visit entry pending :=
  if_pos live

theorem turn_of_not_live {roster : Roster α} {entry : Entry α}
    (gone : ¬ roster.isLive entry.serial) (pending : List (Entry α)) :
    roster.turn (entry :: pending) = .skip entry pending :=
  if_neg gone

variable [DecidableEq α]

/-! ## Handles -/

theorem contains_iff {roster : Roster α} {handle : α} :
    roster.contains handle ↔ handle ∈ roster.handles := by
  simp [contains, handles]

/-- A registration puts a new handle at the end and leaves a known one where it is. -/
theorem handles_add (roster : Roster α) (handle : α) :
    (roster.add handle).1.handles =
      if handle ∈ roster.handles then roster.handles else roster.handles ++ [handle] := by
  unfold add
  by_cases h : handle ∈ roster.handles
  · rw [if_pos (contains_iff.2 h), if_pos h]
  · rw [if_neg (fun hc => h (contains_iff.1 hc)), if_neg h]
    simp [handles]

theorem mem_handles_add {roster : Roster α} {handle other : α} :
    handle ∈ (roster.add other).1.handles ↔ handle ∈ roster.handles ∨ handle = other := by
  rw [handles_add]
  split
  · next known =>
    refine ⟨.inl, fun mem => mem.elim id fun same => same ▸ known⟩
  · simp

/-- Taking out the first entry of a handle takes out the first occurrence of the handle. -/
theorem map_handle_eraseP (entries : List (Entry α)) (handle : α) :
    (entries.eraseP fun entry => decide (entry.handle = handle)).map Entry.handle =
      (entries.map Entry.handle).erase handle := by
  induction entries with
  | nil => rfl
  | cons entry entries ih =>
    by_cases h : entry.handle = handle
    · simp [h]
    · simp [h, ih]

/-- A removal takes the handle out and leaves the others in their order. -/
theorem handles_remove (roster : Roster α) (handle : α) :
    (roster.remove handle).1.handles = roster.handles.erase handle := by
  unfold remove
  split
  · next h =>
    have hnot : handle ∉ roster.handles := by
      intro hmem
      obtain ⟨entry, hentry, heq⟩ := List.mem_map.1 hmem
      have := List.find?_eq_none.1 h entry hentry
      simp [heq] at this
    exact (List.erase_of_not_mem hnot).symm
  · exact map_handle_eraseP roster.entries handle

/-! ## Serial numbers -/

/-- Only a registration that is accepted uses a serial number up. -/
theorem nextSerial_add (roster : Roster α) (handle : α) :
    (roster.add handle).1.nextSerial =
      if roster.contains handle then roster.nextSerial else roster.nextSerial + 1 := by
  unfold add
  split <;> rfl

theorem nextSerial_remove (roster : Roster α) (handle : α) :
    (roster.remove handle).1.nextSerial = roster.nextSerial := by
  unfold remove
  split <;> rfl

end Herald.Roster
