/-!
# Machines that take small steps

A machine is given by its step function: it answers with the next state and with the events that
take place in the step, in order, or with nothing where the machine is at rest. `Machine.Steps`
relates a state to those that the machine can reach from it, with the journal of what happens on the
way, and `Machine.advance` takes a number of steps. The machine does not choose, so the two say the
same (`Machine.advance_steps`, `Machine.Steps.exists_advance`).

What holds at every point of every run of a machine is shown by induction on the steps, the last
step being the outermost. If at most one thing happens in a step, a run can also be cut at each of
its events (`Machine.Steps.split`).
-/

namespace Herald.Machine

variable {σ ε ρ : Type}

/-- Takes up to a given number of steps, and adds what happens in them to a journal. -/
def advance (step? : σ → Option (σ × List ε)) : Nat → σ → Array ε → σ × Array ε
  | 0, state, journal => (state, journal)
  | fuel + 1, state, journal =>
    match step? state with
    | none => (state, journal)
    | some (next, events) => advance step? fuel next (journal ++ events)

/-- The reports of a journal. Some events end a piece of work: they make a report of what happened
in it before. `earlier` holds, last first, what has happened already in the piece that is under
way. -/
def reports (report? : ε → Option (List ε → ρ)) (earlier : List ε) : List ε → List ρ
  | [] => []
  | event :: rest =>
    match report? event with
    | none => reports report? (event :: earlier) rest
    | some report => report earlier.reverse :: reports report? [] rest

/-- The machine can go from `start` to a state, and the journal holds what happens on the way. -/
inductive Steps (step? : σ → Option (σ × List ε)) (start : σ) : List ε → σ → Prop where
  | refl : Steps step? start [] start
  | step {journal events : List ε} {state next : σ} (steps : Steps step? start journal state)
      (stepped : step? state = some (next, events)) : Steps step? start (journal ++ events) next

variable {step? : σ → Option (σ × List ε)} {start state middle final : σ} {journal events : List ε}

/-! ## Steps -/

namespace Steps

theorem single (stepped : step? start = some (final, events)) : Steps step? start events final :=
  .step .refl stepped

theorem trans (first : Steps step? start journal middle)
    (second : Steps step? middle events final) : Steps step? start (journal ++ events) final := by
  induction second with
  | refl => simpa using first
  | step _ stepped ih => simpa using ih.step stepped

/-- A run can be cut at each of its events, if at most one thing happens in a step. -/
theorem split {past rest : List ε} {event : ε}
    (single : ∀ journal state next events, Steps step? start journal state →
      step? state = some (next, events) → events.length ≤ 1)
    (steps : Steps step? start journal state) (cut : journal = past ++ event :: rest) :
    ∃ before after, Steps step? start past before ∧ step? before = some (after, [event]) ∧
      Steps step? after rest state := by
  induction steps generalizing rest with
  | refl => simp at cut
  | @step journal events state next steps stepped ih =>
      have single := single _ _ _ _ steps stepped
      cases events with
      | nil =>
          obtain ⟨before, after, first, here, second⟩ := ih (by simpa using cut)
          exact ⟨before, after, first, here, by simpa using second.step stepped⟩
      | cons last events =>
          -- the one event of the last step is the one in question, or it comes after that
          obtain rfl : events = [] := List.eq_nil_of_length_eq_zero (by simpa using single)
          rcases List.eq_nil_or_concat rest with rfl | ⟨rest, other, rfl⟩
          · obtain ⟨rfl, same⟩ := List.append_inj' cut rfl
            exact ⟨state, next, steps, same ▸ stepped, .refl⟩
          · rw [List.concat_eq_append, ← List.cons_append, ← List.append_assoc] at cut
            obtain ⟨cut, same⟩ := List.append_inj' cut rfl
            obtain ⟨before, after, first, here, second⟩ := ih cut
            exact ⟨before, after, first, here, List.concat_eq_append ▸ same ▸ second.step stepped⟩

end Steps

/-! ## Taking a number of steps -/

/-- Taking a number of steps leads from a point of a run to a point of the run. -/
theorem advance_steps (fuel : Nat) {journal : Array ε}
    (steps : Steps step? start journal.toList state) :
    Steps step? start (advance step? fuel state journal).2.toList
      (advance step? fuel state journal).1 := by
  induction fuel generalizing state journal with
  | zero => exact steps
  | succ fuel ih =>
      unfold advance
      split
      · exact steps
      · next h =>
        apply ih
        rw [Array.toList_appendList]
        exact steps.step h

/-- Nothing changes where the machine is at rest. -/
theorem advance_of_rest (rest : step? state = none) (fuel : Nat) (journal : Array ε) :
    advance step? fuel state journal = (state, journal) := by
  cases fuel with
  | zero => rfl
  | succ fuel => simp only [advance, rest]

/-- To take some steps and then some more is to take all of them. -/
theorem advance_add (fuel more : Nat) (state : σ) (journal : Array ε) :
    advance step? (fuel + more) state journal =
      advance step? more (advance step? fuel state journal).1
        (advance step? fuel state journal).2 := by
  induction fuel generalizing state journal with
  | zero => rw [Nat.zero_add, advance]
  | succ fuel ih =>
      cases stepped : step? state with
      | none => simp only [advance_of_rest stepped]
      | some result =>
          obtain ⟨next, events⟩ := result
          rw [Nat.succ_add_eq_add_succ, Nat.add_succ]
          simpa only [advance, stepped] using ih next (journal ++ events)

/-- The machine gets to any point of a run by taking a number of steps. -/
theorem Steps.exists_advance (steps : Steps step? start journal state) :
    ∃ fuel, advance step? fuel start #[] = (state, journal.toArray) := by
  induction steps with
  | refl => exact ⟨0, rfl⟩
  | step _ stepped ih =>
      obtain ⟨fuel, reached⟩ := ih
      refine ⟨fuel + 1, ?_⟩
      rw [advance_add, reached]
      simp only [advance, stepped, List.toArray_appendList]

end Herald.Machine
