import Herald.Proofs.Replay.Rounds
import Mathlib.Data.List.Nodup

/-!
# What the report of a replay says

The report in closed form (`report_of_replay`): the tracers are told of the moves in order, each
move in a round of its own, up to the limit of the plan. A limit that is not zero is kept by every
tracer, and a lower limit cuts the report short (`limit_of_replay`). A limit of zero is never met,
since a tracer looks at the limit only after it has been told: it is the same as none
(`replay_limit_zero`).
-/

namespace Herald.Replay

/-- How often a tracer was told. -/
def Report.receivedBy (report : Report) (observer : Nat) : Nat :=
  report.deliveries.countP fun delivery => delivery.observer = observer

namespace Plan

variable {plan : Plan}

/-- The number of moves that the tracers of a plan are told of. -/
def rounds (plan : Plan) : Nat :=
  match plan.detachAfter with
  | none => plan.moves.length
  | some limit => min plan.moves.length limit.toNat

/-- A limit that is not zero is met. -/
theorem limit?_of_ne_zero (positive : plan.detachAfter ≠ some 0) :
    plan.limit? = plan.detachAfter.map UInt64.toNat := by
  unfold limit?
  cases limit : plan.detachAfter with
  | none => rfl
  | some limit' =>
      rw [limit] at positive
      have nonzero : limit'.toNat ≠ 0 := by
        intro zero
        exact positive (congrArg some (UInt64.toNat_inj.1 zero))
      simp [Option.filter, nonzero]

theorem limit?_of_zero (zero : plan.detachAfter = some 0) : plan.limit? = none := by
  simp [limit?, zero]

theorem heard_of_none (unlimited : plan.limit? = none) (moves : List (StateId × StateId)) :
    plan.heard 0 moves = moves := by
  simp [heard, unlimited]

theorem heard_of_some {limit : Nat} (limited : plan.limit? = some limit)
    (moves : List (StateId × StateId)) : plan.heard 0 moves = moves.take limit := by
  simp [heard, limited]

/-- Tracers hear of as many moves as there are rounds. -/
theorem heard_moves (positive : plan.detachAfter ≠ some 0) :
    plan.heard 0 plan.moves = plan.moves.take plan.rounds := by
  have limit := limit?_of_ne_zero positive
  unfold rounds
  split
  · next unlimited => rw [heard_of_none (by simp [limit, unlimited]), List.take_length]
  · next limit' limited =>
    rw [heard_of_some (by rw [limit, limited]; rfl), List.take_eq_take_iff]
    omega

/-- In one round a tracer is told once at most. -/
theorem countP_round_le (plan : Plan) (move : StateId × StateId) (observer : Nat) :
    ((plan.round move).countP fun delivery => delivery.observer = observer) ≤ 1 := by
  have single := List.nodup_iff_count_le_one.1 (List.nodup_range (n := plan.count)) observer
  rw [List.count_eq_countP] at single
  rw [round, List.countP_map]
  exact single

/-- A tracer is told once for each move at most. -/
theorem countP_flatMap_round_le (plan : Plan) (moves : List (StateId × StateId)) (observer : Nat) :
    ((moves.flatMap plan.round).countP fun delivery => delivery.observer = observer) ≤
      moves.length := by
  induction moves with
  | nil => exact Nat.le_refl 0
  | cons move moves ih =>
      have one := plan.countP_round_le move observer
      rw [List.flatMap_cons, List.countP_append, List.length_cons]
      omega

/-- The deliveries for fewer moves come first. -/
theorem flatMap_round_prefix {fewer more : List (StateId × StateId)} (first : fewer <+: more) :
    fewer.flatMap plan.round <+: more.flatMap plan.round := by
  obtain ⟨rest, rfl⟩ := first
  rw [List.flatMap_append]
  exact List.prefix_append _ _

end Plan

/-! ## The report -/

/-- A replay whose plan has no limit or one that is not zero never fails. The tracers are told of
the moves in order, each of all tracers in order, until the limit is reached. The last state of the
plan is reached in any case, and all tracers have left if there were as many moves as the limit
says. -/
theorem report_of_replay (plan : Plan) (positive : plan.detachAfter ≠ some 0) :
    plan.replay = .ok
      { deliveries := (plan.moves.take plan.rounds).flatMap fun (source, target) =>
          (List.range plan.observers.toNat).map fun observer => ⟨observer, source, target⟩
        finalState := (plan.initialState :: plan.states).getLast (List.cons_ne_nil _ _)
        remaining := match plan.detachAfter with
          | none => plan.observers.toNat
          | some limit =>
            if limit.toNat ≤ plan.moves.length then 0 else plan.observers.toNat } := by
  have limit := Plan.limit?_of_ne_zero positive
  rw [plan.replay_eq, Plan.heard_moves positive, limit, List.getLast_eq_getLastD]
  congr 2
  unfold Plan.rounds
  split
  · next unlimited => simp [unlimited, Plan.count]
  · next limit' limited =>
    simp only [limited, Option.map_some, Option.some.injEq, List.length_take]
    congr 1
    rw [eq_iff_iff]
    omega

/-- A plan with a limit, whose states stay the same twice. -/
def screening : Plan where
  owner := "screen"
  initialState := 1
  observers := 3
  detachAfter := some 2
  states := [2, 2, 3, 1, 1]

/-- The tracers of `screening` leave in the second of three rounds. -/
theorem screening_report :
    screening.detachAfter ≠ some 0 ∧
      screening.replay = .ok
        ⟨[⟨0, 1, 2⟩, ⟨1, 1, 2⟩, ⟨2, 1, 2⟩, ⟨0, 2, 3⟩, ⟨1, 2, 3⟩, ⟨2, 2, 3⟩], 1, 0⟩ :=
  ⟨by decide, (report_of_replay screening (by decide)).trans rfl⟩

/-! ## The limit -/

/-- A limit of zero is the same as none. -/
theorem replay_limit_zero (plan : Plan) :
    { plan with detachAfter := some 0 }.replay = { plan with detachAfter := none }.replay := by
  have zero : { plan with detachAfter := some 0 }.limit? = none := Plan.limit?_of_zero rfl
  rw [Plan.replay_eq, Plan.replay_eq, zero, Plan.heard_of_none zero]
  rfl

/-- No tracer is told more often than a limit that is not zero says, and with a lower limit the
deliveries are the first ones of those with a higher limit, and no more tracers remain. A limit of
zero, on the other hand, does not limit anything. -/
theorem limit_of_replay (plan : Plan) (limit : UInt64) :
    (limit ≠ 0 → ∃ report,
      { plan with detachAfter := some limit }.replay = .ok report ∧
      (∀ observer, report.receivedBy observer ≤ limit.toNat) ∧
      ∀ higher, limit ≤ higher → ∃ other,
        { plan with detachAfter := some higher }.replay = .ok other ∧
        report.deliveries <+: other.deliveries ∧ report.remaining ≤ other.remaining) ∧
    { plan with detachAfter := some 0 }.replay = { plan with detachAfter := none }.replay := by
  refine ⟨fun positive => ?_, replay_limit_zero plan⟩
  -- the report is what is told of the first moves, for any limit that is not zero
  have limited {limit : UInt64} (positive : limit ≠ 0) :
      { plan with detachAfter := some limit }.limit? = some limit.toNat :=
    Plan.limit?_of_ne_zero (by simpa using positive)
  have report := fun limit : UInt64 => Plan.replay_eq { plan with detachAfter := some limit }
  refine ⟨_, report limit, ?_, ?_⟩
  · intro observer
    have told := Plan.countP_flatMap_round_le { plan with detachAfter := some limit }
      (plan.moves.take limit.toNat) observer
    rw [List.length_take] at told
    simp only [Report.receivedBy]
    rw [Plan.heard_of_some (limited positive)]
    exact Nat.le_trans told (Nat.min_le_left _ _)
  · intro higher le
    have le' : limit.toNat ≤ higher.toNat := UInt64.le_iff_toNat_le.1 le
    have positive' : higher ≠ 0 := by
      rintro rfl
      exact positive (UInt64.toNat_inj.1 (Nat.le_zero.1 le'))
    refine ⟨_, report higher, ?_, ?_⟩
    · rw [Plan.heard_of_some (limited positive), Plan.heard_of_some (limited positive')]
      exact Plan.flatMap_round_prefix (List.take_prefix_take_left le')
    · rw [limited positive, limited positive', Plan.heard_of_some (limited positive),
        Plan.heard_of_some (limited positive'), List.length_take, List.length_take]
      change (if some limit.toNat = some (min limit.toNat plan.moves.length) then 0 else plan.count)
        ≤ if some higher.toNat = some (min higher.toNat plan.moves.length) then 0 else plan.count
      simp only [Option.some.injEq]
      split <;> split <;> omega

/-- Two tracers stay in `screening` with its limit raised to four. -/
theorem screening_limit :
    screening.detachAfter = some 2 ∧ (2 : UInt64) ≠ 0 ∧ (2 : UInt64) ≤ 4 ∧
      ∃ report other, screening.replay = .ok report ∧
        { screening with detachAfter := some 4 }.replay = .ok other ∧
        (∀ observer, report.receivedBy observer ≤ 2) ∧
        report.deliveries <+: other.deliveries ∧ report.remaining ≤ other.remaining := by
  obtain ⟨report, replayed, received, higher⟩ :=
    (limit_of_replay screening 2).1 (by decide)
  obtain ⟨other, replayed', first, fewer⟩ := higher 4 (by decide)
  exact ⟨rfl, by decide, by decide, report, other, replayed, replayed', received, first, fewer⟩

/-- With a limit of zero the tracers of `screening` are told of every move and stay, with a limit of
one they leave in the first round. -/
theorem limit_zero_exceeded :
    ∃ report other,
      { screening with detachAfter := some 0 }.replay = .ok report ∧
      { screening with detachAfter := some 1 }.replay = .ok other ∧
      0 < report.receivedBy 0 ∧ ¬ report.deliveries <+: other.deliveries ∧
      other.remaining < report.remaining :=
  ⟨_, _, rfl, rfl, by decide, by decide, by decide⟩

end Herald.Replay
