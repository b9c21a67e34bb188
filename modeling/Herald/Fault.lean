import Herald.Trace

/-!
# Faults

The one error type of the library. A fault says how severe it is, where it comes from, what kind
it is, and in words what happened; a payload may add the setting at fault or the change of state
that was being announced.

A fault without a payload takes the change of state of the first dispatch that it passes through
(`Fault.withTransition`), and no later dispatch replaces it.
-/

namespace Herald

/-- A raw lifecycle state. A host may give any meaning to any of them. -/
abbrev StateId := Int32

/-- How much a fault matters, from least to most. -/
inductive Severity where
  | trace
  | debug
  | info
  | warn
  | error
  | fatal
  deriving DecidableEq, Ord, Repr

/-- The word for a severity in the text of a fault. -/
def Severity.name : Severity → String
  | .trace => "Trace"
  | .debug => "Debug"
  | .info => "Info"
  | .warn => "Warn"
  | .error => "Error"
  | .fatal => "Fatal"

/-- The log level of a severity: a fatal fault is logged as an error, all others as themselves. -/
def Severity.level : Severity → Trace.Level
  | .trace => .trace
  | .debug => .debug
  | .info => .info
  | .warn => .warn
  | .error | .fatal => .error

/-- Where a fault comes from. -/
inductive Domain where
  | lifecycle
  | observer
  | config
  | other
  deriving DecidableEq, Repr

/-- The word for a domain in a log. -/
def Domain.name : Domain → String
  | .lifecycle => "Lifecycle"
  | .observer => "Observer"
  | .config => "Config"
  | .other => "Other"

/-- What sort of fault it is, for a caller that wants to tell them apart. -/
inductive FaultKind where
  | invalidArgument
  | unknownState
  | observerFailed
  | other
  deriving DecidableEq, Repr

/-- The word for a kind of fault in a log. -/
def FaultKind.name : FaultKind → String
  | .invalidArgument => "InvalidArgument"
  | .unknownState => "UnknownState"
  | .observerFailed => "ObserverFailed"
  | .other => "Other"

/-- What a fault carries besides its message. -/
inductive Payload where
  | none
  | context (key value : String)
  | transition (source target : StateId)
  deriving DecidableEq, Repr

/-- A failure, as it is returned and logged. -/
structure Fault where
  severity : Severity
  domain : Domain := .other
  kind : FaultKind := .other
  message : String := ""
  payload : Payload := .none
  deriving DecidableEq, Repr

namespace Fault

/-- An observer failed while the change from `source` to `target` was being announced. -/
def observerFailed (source target : StateId) (reason : String) : Fault where
  severity := .error
  domain := .observer
  kind := .observerFailed
  message := reason
  payload := .transition source target

/-- A text that names no lifecycle state. -/
def unknownState (input : String) : Fault where
  severity := .warn
  domain := .lifecycle
  kind := .unknownState
  message := "unknown lifecycle state"
  payload := .context "state" input

/-- A setting whose value cannot be used. -/
def invalidConfig (key value : String) : Fault where
  severity := .error
  domain := .config
  kind := .invalidArgument
  message := "invalid value for " ++ key
  payload := .context key value

/-- The fault with a change of state as its payload, unless it already carries one. -/
def withTransition (fault : Fault) (source target : StateId) : Fault :=
  match fault.payload with
  | .none => { fault with payload := .transition source target }
  | _ => fault

/-- The text of a fault: its severity and its message. -/
def describe (fault : Fault) : String :=
  fault.severity.name ++ ": " ++ fault.message

/-- The log record of a fault, at the level of its severity. -/
def record (fault : Fault) : Trace.Record where
  level := fault.severity.level
  message := fault.describe
  fields := [("domain", .text fault.domain.name), ("kind", .text fault.kind.name)]

/-! ## Attaching a change of state -/

theorem withTransition_of_payload_none {fault : Fault} (h : fault.payload = .none)
    (source target : StateId) :
    fault.withTransition source target = { fault with payload := .transition source target } := by
  simp [withTransition, h]

theorem withTransition_of_payload_ne_none {fault : Fault} (h : fault.payload ≠ .none)
    (source target : StateId) : fault.withTransition source target = fault := by
  unfold withTransition
  split
  · next h' => exact absurd h' h
  · rfl

/-- Attaching a change of state touches nothing but a missing payload. -/
theorem withTransition_eq (fault : Fault) (source target : StateId) :
    fault.withTransition source target = { fault with
      payload := if fault.payload = .none then .transition source target else fault.payload } := by
  by_cases h : fault.payload = .none
  · rw [withTransition_of_payload_none h, if_pos h]
  · rw [withTransition_of_payload_ne_none h, if_neg h]

@[simp] theorem record_withTransition (fault : Fault) (source target : StateId) :
    (fault.withTransition source target).record = fault.record := by
  rw [withTransition_eq]
  rfl

/-- After one change of state is attached there is a payload. -/
theorem withTransition_payload_ne_none (fault : Fault) (source target : StateId) :
    (fault.withTransition source target).payload ≠ .none := by
  unfold withTransition
  split
  · simp
  · next h => exact h

/-- The change of state that was attached first stays. -/
@[simp] theorem withTransition_withTransition (fault : Fault)
    (source target other another : StateId) :
    (fault.withTransition source target).withTransition other another =
      fault.withTransition source target :=
  withTransition_of_payload_ne_none (withTransition_payload_ne_none fault source target) _ _

end Fault

end Herald
