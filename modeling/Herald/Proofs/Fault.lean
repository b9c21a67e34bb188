import Herald.Fault

/-!
# What is told of a fault

The words that stand for a fault in texts and in a log, as tables. A severity has a word and a log
level (`Severity.Reads`); a domain and a kind have a word each. `Fault.Reads` says with the first
table which text a fault has, and `Trace.Record.Tells` says with all three what a record of it must
hold. Each fault has exactly one text and one record (`Fault.reads_iff`,
`Trace.Record.tells_iff`).
-/

namespace Herald

/-! ## Words -/

/-- The word and the log level that belong to a severity. -/
inductive Severity.Reads : Severity → String → Trace.Level → Prop where
  | trace : Reads .trace "Trace" .trace
  | debug : Reads .debug "Debug" .debug
  | info : Reads .info "Info" .info
  | warn : Reads .warn "Warn" .warn
  | error : Reads .error "Error" .error
  /-- A log has no level above that of errors. -/
  | fatal : Reads .fatal "Fatal" .error

/-- The word that belongs to a domain. -/
inductive Domain.Reads : Domain → String → Prop where
  | lifecycle : Reads .lifecycle "Lifecycle"
  | observer : Reads .observer "Observer"
  | config : Reads .config "Config"
  | other : Reads .other "Other"

/-- The word that belongs to a kind of fault. -/
inductive FaultKind.Reads : FaultKind → String → Prop where
  | invalidArgument : Reads .invalidArgument "InvalidArgument"
  | unknownState : Reads .unknownState "UnknownState"
  | observerFailed : Reads .observerFailed "ObserverFailed"
  | other : Reads .other "Other"

theorem Severity.reads_iff {severity : Severity} {word : String} {level : Trace.Level} :
    severity.Reads word level ↔ word = severity.name ∧ level = severity.level := by
  constructor
  · intro reads
    cases reads <;> exact ⟨rfl, rfl⟩
  · rintro ⟨rfl, rfl⟩
    cases severity <;> constructor

theorem Domain.reads_iff {domain : Domain} {word : String} :
    domain.Reads word ↔ word = domain.name := by
  constructor
  · intro reads
    cases reads <;> rfl
  · rintro rfl
    cases domain <;> constructor

theorem FaultKind.reads_iff {kind : FaultKind} {word : String} :
    kind.Reads word ↔ word = kind.name := by
  constructor
  · intro reads
    cases reads <;> rfl
  · rintro rfl
    cases kind <;> constructor

/-! ## Texts and records -/

/-- The text of a fault is the word for its severity, a colon, and its message. -/
def Fault.Reads (fault : Fault) (text : String) : Prop :=
  ∃ word level, fault.severity.Reads word level ∧ text = word ++ ": " ++ fault.message

/-- A record tells of a fault with the text of the fault as its message, at the level of the
severity, and names the domain and the kind in its fields. -/
structure Trace.Record.Tells (record : Record) (fault : Fault) : Prop where
  severity : ∃ word, fault.severity.Reads word record.level ∧
    record.message = word ++ ": " ++ fault.message
  origin : ∃ domain kind, fault.domain.Reads domain ∧ fault.kind.Reads kind ∧
    record.fields = [("domain", .text domain), ("kind", .text kind)]

theorem Fault.reads_iff {fault : Fault} {text : String} :
    fault.Reads text ↔ text = fault.describe := by
  constructor
  · rintro ⟨word, level, reads, rfl⟩
    rw [(Severity.reads_iff.1 reads).1]
    rfl
  · rintro rfl
    exact ⟨_, _, Severity.reads_iff.2 ⟨rfl, rfl⟩, rfl⟩

/-- A fault leaves the record that tells of it, and no other record does. -/
theorem Trace.Record.tells_iff {record : Trace.Record} {fault : Fault} :
    record.Tells fault ↔ record = fault.record := by
  constructor
  · obtain ⟨level, message, fields⟩ := record
    rintro ⟨⟨word, severity, rfl⟩, _, _, domain, kind, rfl⟩
    obtain ⟨rfl, rfl⟩ := Severity.reads_iff.1 severity
    obtain rfl := Domain.reads_iff.1 domain
    obtain rfl := FaultKind.reads_iff.1 kind
    rfl
  · rintro rfl
    exact ⟨⟨_, Severity.reads_iff.2 ⟨rfl, rfl⟩, rfl⟩, _, _, Domain.reads_iff.2 rfl,
      FaultKind.reads_iff.2 rfl, rfl⟩

end Herald
