import Herald.Proofs.Roster.Invariant
import Mathlib.Data.List.Induction
import Mathlib.Data.Set.Card

/-!
# A roster is the ordered set that its calls describe

Whether a handle is registered, and where it stands, is a matter of the calls that were executed so
far and of nothing else (`handles_of_called`): the handle is registered if the last call that
concerns it is a registration, and the handles stand in the order of their registrations, where a
registration counts from the first one after the handle was last expelled (`RegisteredAt`).

The lemmas go over the calls from the last one backwards, since a run executes them one after the
other.
-/

namespace Herald

variable {α : Type}

/-- Whether a call decides about a handle. -/
def Edit.Concerns (handle : α) (edit : Edit α) : Prop :=
  edit = .add handle ∨ edit.Expels handle

instance [DecidableEq α] (handle : α) : DecidablePred (Edit.Concerns handle) :=
  fun _ => instDecidableOr

namespace Roster

/-- The call in a given place registered the handle: the handle was not expelled later, and it was
expelled after each earlier call that would have registered it. -/
structure RegisteredAt (calls : List (Edit α)) (handle : α) (place : Nat) : Prop where
  call : calls[place]? = some (.add handle)
  kept : ∀ later edit, place < later → calls[later]? = some edit → ¬ edit.Expels handle
  first : ∀ earlier, earlier < place → calls[earlier]? = some (.add handle) →
    ∃ between edit, earlier < between ∧ between < place ∧
      calls[between]? = some edit ∧ edit.Expels handle

variable [DecidableEq α]

/-- The last call that decides about a handle. -/
def lastCall? (handle : α) (calls : List (Edit α)) : Option (Edit α) :=
  (calls.filter fun edit => edit.Concerns handle).getLast?

/-! ## One more call -/

theorem lastCall?_append (handle : α) (calls : List (Edit α)) (edit : Edit α) :
    lastCall? handle (calls ++ [edit]) =
      if edit.Concerns handle then some edit else lastCall? handle calls := by
  unfold lastCall?
  rw [List.filter_append]
  by_cases concerns : edit.Concerns handle <;> simp [concerns]

/-- The handles that are registered after a call. -/
theorem mem_handles_edit_iff {roster : Roster α} (formed : WellFormed roster) (edit : Edit α)
    {handle : α} :
    handle ∈ (roster.edit edit).1.handles ↔
      edit = .add handle ∨ handle ∈ roster.handles ∧ ¬ edit.Expels handle := by
  cases edit with
  | add other =>
      rw [Roster.edit, mem_handles_add]
      by_cases same : other = handle
      · simp [same]
      · simp [same, Ne.symm same]
  | remove other =>
      rw [Roster.edit, handles_remove]
      by_cases same : other = handle
      · subst same
        simp [formed.distinct.not_mem_erase]
      · simp [List.mem_erase_of_ne (Ne.symm same), same]
  | clear => simp [Roster.edit, handles_clear]

omit [DecidableEq α] in
/-- What stands in a place of a list of calls with one more at the end. -/
theorem getElem?_append_eq_some_iff {calls : List (Edit α)} {last edit : Edit α} {place : Nat} :
    (calls ++ [last])[place]? = some edit ↔
      calls[place]? = some edit ∨ place = calls.length ∧ last = edit := by
  rcases Nat.lt_trichotomy place calls.length with before | rfl | behind
  · simp [List.getElem?_append_left before, Nat.ne_of_lt before]
  · simp
  · simp [List.getElem?_eq_none behind.le, Nat.ne_of_gt behind, behind]

omit [DecidableEq α] in
/-- A handle stays registered where it is unless the next call expels it. -/
theorem RegisteredAt.append {calls : List (Edit α)} {handle : α} {place : Nat} {edit : Edit α}
    (registered : RegisteredAt calls handle place) (keeps : ¬ edit.Expels handle) :
    RegisteredAt (calls ++ [edit]) handle place where
  call := getElem?_append_eq_some_iff.2 (.inl registered.call)
  kept later other after there := by
    rcases getElem?_append_eq_some_iff.1 there with old | ⟨_, rfl⟩
    · exact registered.kept later other after old
    · exact keeps
  first earlier before there := by
    have inside : place < calls.length := (List.getElem?_eq_some_iff.1 registered.call).1
    rcases getElem?_append_eq_some_iff.1 there with old | ⟨rfl, _⟩
    · obtain ⟨between, other, after, before', expelled⟩ := registered.first earlier before old
      exact ⟨between, other, after, before',
        getElem?_append_eq_some_iff.2 (.inl expelled.1), expelled.2⟩
    · omega

/-! ## All calls -/

/-- The registered handles are those whose last deciding call is a registration. -/
theorem mem_handles_after_iff (calls : List (Edit α)) (handle : α) :
    handle ∈ ((empty : Roster α).after calls).handles ↔
      lastCall? handle calls = some (.add handle) := by
  induction calls using List.reverseRecOn with
  | nil => simp [empty, handles, lastCall?]
  | append_singleton calls edit ih =>
      have formed : WellFormed ((empty : Roster α).after calls) := wellFormed_empty.after calls
      rw [after_append, after_cons, after_nil, mem_handles_edit_iff formed, lastCall?_append, ih]
      by_cases adds : edit = .add handle
      · simp [adds, Edit.Concerns]
      · by_cases expels : edit.Expels handle <;> simp [Edit.Concerns, adds, expels]

/-- A handle that was registered, and was not expelled afterwards, is registered. -/
theorem mem_handles_of_kept {calls : List (Edit α)} {handle : α} {place : Nat}
    (call : calls[place]? = some (.add handle))
    (kept : ∀ later edit, place < later → calls[later]? = some edit → ¬ edit.Expels handle) :
    handle ∈ ((empty : Roster α).after calls).handles := by
  induction calls using List.reverseRecOn with
  | nil => simp at call
  | append_singleton calls edit ih =>
      have formed : WellFormed ((empty : Roster α).after calls) := wellFormed_empty.after calls
      rw [after_append, after_cons, after_nil, mem_handles_edit_iff formed]
      rcases getElem?_append_eq_some_iff.1 call with inside | ⟨_, last⟩
      · have before : place < calls.length := (List.getElem?_eq_some_iff.1 inside).1
        have mem : handle ∈ ((empty : Roster α).after calls).handles := by
          apply ih inside
          intro later other after there
          exact kept later other after (getElem?_append_eq_some_iff.2 (.inl there))
        exact .inr ⟨mem, kept calls.length edit before (by simp)⟩
      · exact .inl last

/-- A handle that is not registered becomes registered by the next registration. -/
theorem registeredAt_of_not_mem {calls : List (Edit α)} {handle : α}
    (absent : handle ∉ ((empty : Roster α).after calls).handles) :
    RegisteredAt (calls ++ [.add handle]) handle calls.length := by
  refine ⟨by simp, ?_, ?_⟩
  · intro later edit after there
    rcases getElem?_append_eq_some_iff.1 there with inside | ⟨rfl, _⟩
    · have := (List.getElem?_eq_some_iff.1 inside).1
      omega
    · omega
  · intro earlier before there
    rcases getElem?_append_eq_some_iff.1 there with inside | ⟨rfl, _⟩
    · -- if nothing had expelled the handle since an earlier registration, it would be there
      by_contra none
      refine absent (mem_handles_of_kept inside fun later edit after there expels => none ?_)
      exact ⟨later, edit, after, (List.getElem?_eq_some_iff.1 there).1,
        getElem?_append_eq_some_iff.2 (.inl there), expels⟩
    · omega

/-- Each registered handle has a place in the calls. -/
theorem exists_registeredAt_of_mem {calls : List (Edit α)} {handle : α}
    (mem : handle ∈ ((empty : Roster α).after calls).handles) :
    ∃ place, RegisteredAt calls handle place := by
  induction calls using List.reverseRecOn with
  | nil => simp [empty, handles] at mem
  | append_singleton calls edit ih =>
      have formed : WellFormed ((empty : Roster α).after calls) := wellFormed_empty.after calls
      rw [after_append, after_cons, after_nil, mem_handles_edit_iff formed] at mem
      by_cases old : handle ∈ ((empty : Roster α).after calls).handles
      · obtain ⟨place, registered⟩ := ih old
        refine ⟨place, registered.append ?_⟩
        rcases mem with rfl | ⟨_, keeps⟩
        · exact Edit.expels_add _ _
        · exact keeps
      · rcases mem with rfl | ⟨mem, _⟩
        · exact ⟨_, registeredAt_of_not_mem old⟩
        · exact absurd mem old

/-- The registered handles are those that have a place in the calls. -/
theorem mem_handles_iff_registeredAt (calls : List (Edit α)) (handle : α) :
    handle ∈ ((empty : Roster α).after calls).handles ↔
      ∃ place, RegisteredAt calls handle place := by
  constructor
  · exact exists_registeredAt_of_mem
  · rintro ⟨place, registered⟩
    exact mem_handles_of_kept registered.call registered.kept

/-- One handle stands before another in the order of their registrations. -/
def RegisteredBefore (calls : List (Edit α)) (first second : α) : Prop :=
  ∃ i j, RegisteredAt calls first i ∧ RegisteredAt calls second j ∧ i < j

omit [DecidableEq α] in
theorem RegisteredBefore.append {calls : List (Edit α)} {first second : α} {edit : Edit α}
    (before : RegisteredBefore calls first second) (keepsFirst : ¬ edit.Expels first)
    (keepsSecond : ¬ edit.Expels second) :
    RegisteredBefore (calls ++ [edit]) first second := by
  obtain ⟨i, j, hi, hj, lt⟩ := before
  exact ⟨i, j, hi.append keepsFirst, hj.append keepsSecond, lt⟩

/-- The registered handles stand in the order of their registrations. -/
theorem handles_after_sorted (calls : List (Edit α)) :
    ((empty : Roster α).after calls).handles.Pairwise (RegisteredBefore calls) := by
  induction calls using List.reverseRecOn with
  | nil => exact List.Pairwise.nil
  | append_singleton calls edit ih =>
      have formed : WellFormed ((empty : Roster α).after calls) := wellFormed_empty.after calls
      rw [after_append, after_cons, after_nil]
      cases edit with
      | add handle =>
          have kept : ((empty : Roster α).after calls).handles.Pairwise
              (RegisteredBefore (calls ++ [.add handle])) := by
            apply ih.imp
            intro first second before
            exact before.append (Edit.expels_add _ handle) (Edit.expels_add _ handle)
          rw [Roster.edit, handles_add]
          split
          · exact kept
          · next absent =>
            refine List.pairwise_append.2 ⟨kept, List.pairwise_singleton _ _, ?_⟩
            intro old mem new last
            obtain rfl := List.mem_singleton.1 last
            obtain ⟨place, registered⟩ := exists_registeredAt_of_mem mem
            exact ⟨place, calls.length, registered.append (Edit.expels_add _ _),
              registeredAt_of_not_mem absent, (List.getElem?_eq_some_iff.1 registered.call).1⟩
      | remove handle =>
          rw [Roster.edit, handles_remove]
          have others : ∀ other ∈ ((empty : Roster α).after calls).handles.erase handle,
              ¬ (Edit.remove handle).Expels other := by
            rintro other mem rfl
            exact formed.distinct.not_mem_erase mem
          apply (ih.sublist List.erase_sublist).imp_of_mem
          intro first second hfirst hsecond before
          exact before.append (others _ hfirst) (others _ hsecond)
      | clear => exact List.Pairwise.nil

/-! ## Runs -/

/-- At every point of every run, a handle is registered exactly if the last call so far that decides
about it is a registration. The registered handles stand in the order of their registrations, and
their number is the size of the roster. What else the program has done makes no difference. -/
theorem handles_of_called {program : Program α} {calls : List (Edit α)} {config : Config α}
    (called : Called program calls config) :
    (∀ handle, config.world.roster.contains handle ↔
      lastCall? handle calls = some (.add handle)) ∧
    (∀ handle, handle ∈ config.world.roster.handles ↔ ∃ place, RegisteredAt calls handle place) ∧
    config.world.roster.handles.Nodup ∧
    config.world.roster.handles.Pairwise (RegisteredBefore calls) ∧
    config.world.roster.size = {handle | lastCall? handle calls = some (.add handle)}.ncard ∧
    (config.world.roster.isEmpty ↔ config.world.roster.size = 0) ∧
    ∀ (other : Program α) (elsewhere : Config α), Called other calls elsewhere →
      elsewhere.world.roster.handles = config.world.roster.handles := by
  have formed : WellFormed ((empty : Roster α).after calls) := wellFormed_empty.after calls
  have registered : {handle | lastCall? handle calls = some (.add handle)} =
      (((empty : Roster α).after calls).handles.toFinset : Set α) := by
    ext handle
    simp [mem_handles_after_iff]
  rw [called.roster]
  refine ⟨fun handle => contains_iff.trans (mem_handles_after_iff calls handle),
    mem_handles_iff_registeredAt calls, formed.distinct, handles_after_sorted calls, ?_, ?_, ?_⟩
  · rw [registered, Set.ncard_coe_finset, List.toFinset_card_of_nodup formed.distinct,
      size_eq_length_handles]
  · rw [isEmpty_iff, size_eq_length_handles, List.length_eq_zero_iff]
  · intro other elsewhere called'
    rw [called'.roster]

/-- In the middle of its first visit, `reentrant` has registered `0` again, behind the others. -/
theorem reentrant_order :
    Called reentrant [.add 0, .add 1, .add 2, .remove 0, .add 0]
        (reentrant.start.advance reentrant 28 #[]).1 ∧
      (reentrant.start.advance reentrant 28 #[]).1.world.roster.handles = [1, 2, 0] ∧
      [1, 2, 0].Pairwise (RegisteredBefore [.add 0, .add 1, .add 2, .remove 0, .add 0]) :=
  have called := (reentrant.advance_isRun 28).called
  ⟨called, rfl, (handles_of_called called).2.2.2.1⟩

end Roster

end Herald
