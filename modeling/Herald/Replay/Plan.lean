import Herald.Fault

/-!
# Replay plans

What a replay needs to know: who owns the registry, the state that it starts in, how many
observers watch it, after how many deliveries each of them leaves, and the states to go through.
-/

namespace Herald.Replay

/-- A replay to be run. -/
structure Plan where
  owner : String
  initialState : StateId
  observers : UInt64
  /-- The number of deliveries after which an observer leaves; without one it stays. -/
  detachAfter : Option UInt64
  states : List StateId
  deriving DecidableEq, Repr

end Herald.Replay
