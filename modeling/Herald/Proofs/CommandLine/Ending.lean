import Herald.Proofs.CommandLine.ReportText
import Herald.Proofs.Fault
import Herald.Proofs.Replay.Rounds
import Herald.Proofs.Settings.Scan

/-!
# How the program ends

A command line ends in one of three ways: help is asked for, or its settings are refused, or they
make a plan, and then there is a report, since no replay fails. `Ending.Leaves` says what the
program leaves behind in each of them, and `run_ends` that each command line has one of them and no
other, and that the report can be told from what is printed.

The text of a failure is made by a runtime that is not modelled. All that is asked of it is that the
text of the fault is part of what it writes.
-/

namespace Herald.CommandLine

/-- The ways in which the program ends. -/
inductive Ending where
  /-- The program says how to call it. -/
  | help
  /-- No plan can be made of the settings. -/
  | refusal (fault : Fault)
  /-- The plan is replayed. -/
  | report (result : Replay.Report)

/-- The text of a fault is part of what is written of it. -/
def ShowsFaults (render : String → Fault → String) : Prop :=
  ∀ context fault, fault.describe.toList <:+: (render context fault).toList

/-- What the program leaves behind when it ends: its usage or its report on the output and success;
or nothing on the output, a text among the errors that has the text of the fault in it, and the code
of a failure. -/
def Ending.Leaves (outcome : Outcome) : Ending → Prop
  | .help => outcome = { code := 0, output := usage, errors := "" }
  | .refusal fault => outcome.code = 1 ∧ outcome.output = "" ∧
      ∃ text, fault.Reads text ∧ text.toList <:+: outcome.errors.toList
  | .report result => outcome = { code := 0, output := reportText result, errors := "" }

/-- How a command line ends in an environment. Where help is asked for, neither the environment nor
any setting matters. -/
inductive Ends (environment : Environment) (words : List String) : Ending → Prop where
  | help (asks : Settings.AsksHelp words.tail) : Ends environment words .help
  | refusal {settings fault} (read : Settings.ofCommandLine environment words = some settings)
      (refused : settings.plan = .error fault) : Ends environment words (.refusal fault)
  | report {settings plan result}
      (read : Settings.ofCommandLine environment words = some settings)
      (planned : settings.plan = .ok plan) (replayed : plan.replay = .ok result) :
      Ends environment words (.report result)

variable {environment : Environment} {words : List String}

theorem ofCommandLine_eq_none_iff :
    Settings.ofCommandLine environment words = none ↔ Settings.AsksHelp words.tail :=
  Settings.scan_eq_none_iff

/-- The usage, letter by letter. It is read once, since that takes a while. -/
theorem usage_letters :
    '\n' ∉ usage.toList.dropLast ∧ usage.toList = usage.toList.dropLast ++ ['\n'] ∧
      ∀ flag ∈ Flag.all, flag.word.toList <:+: usage.toList := by
  decide +kernel

/-- The usage is one line. -/
theorem isLine_usage : IsLine usage :=
  ⟨_, usage_letters.1, usage_letters.2.1⟩

/-- The usage names each flag. -/
theorem word_infix_usage (flag : Flag) : flag.word.toList <:+: usage.toList :=
  usage_letters.2.2 flag flag.mem_all

/-- No replay fails. -/
theorem replay_ne_error (plan : Replay.Plan) (fault : Fault) : plan.replay ≠ .error fault := by
  simp [plan.replay_eq]

/-- Each command line ends in some way. -/
theorem exists_ends (environment : Environment) (words : List String) :
    ∃ ending, Ends environment words ending := by
  cases read : Settings.ofCommandLine environment words with
  | none => exact ⟨.help, .help (ofCommandLine_eq_none_iff.1 read)⟩
  | some settings =>
      cases planned : settings.plan with
      | error fault => exact ⟨.refusal fault, .refusal read planned⟩
      | ok plan =>
          cases replayed : plan.replay with
          | error fault => exact absurd replayed (replay_ne_error plan fault)
          | ok result => exact ⟨.report result, .report read planned replayed⟩

/-- A command line ends in one way only. -/
theorem Ends.unique {ending other : Ending} (first : Ends environment words ending)
    (second : Ends environment words other) : ending = other := by
  cases first with
  | help asks =>
      have nothing : Settings.ofCommandLine environment words = none :=
        ofCommandLine_eq_none_iff.2 asks
      cases second with
      | help => rfl
      | refusal read => cases nothing.symm.trans read
      | report read => cases nothing.symm.trans read
  | refusal read refused =>
      cases second with
      | help asks => cases (ofCommandLine_eq_none_iff.2 asks).symm.trans read
      | refusal read' refused' =>
          cases read.symm.trans read'
          cases refused.symm.trans refused'
          rfl
      | report read' planned' _ =>
          cases read.symm.trans read'
          cases refused.symm.trans planned'
  | report read planned replayed =>
      cases second with
      | help asks => cases (ofCommandLine_eq_none_iff.2 asks).symm.trans read
      | refusal read' refused' =>
          cases read.symm.trans read'
          cases planned.symm.trans refused'
      | report read' planned' replayed' =>
          cases read.symm.trans read'
          cases planned.symm.trans planned'
          cases replayed.symm.trans replayed'
          rfl

/-- What the program leaves behind is what its ending says. -/
theorem Ends.leaves {ending : Ending} {render : String → Fault → String}
    (ends : Ends environment words ending) (shows : ShowsFaults render) :
    ending.Leaves (runWith render environment words) := by
  cases ends with
  | help asks => simp only [runWith, ofCommandLine_eq_none_iff.2 asks, Ending.Leaves]
  | @refusal settings fault read refused =>
      simp only [runWith, read, refused, Ending.Leaves, true_and]
      exact ⟨fault.describe, Fault.reads_iff.2 rfl, shows _ fault⟩
  | report read planned replayed => simp only [runWith, read, planned, replayed, Ending.Leaves]

/-- Each command line ends in one of the three ways and in no other, and the program leaves behind
what that way says: usage and success where help is asked for, whatever the settings are; nothing on
the output and the text of the fault among the errors where the settings are refused, if the runtime
writes it; and otherwise success and the text of a report. No replay fails. The usage is one line
that names each flag. A report is printed as a line for each delivery and a last one, and reports
that differ are printed differently. -/
theorem run_ends {render : String → Fault → String} (shows : ShowsFaults render)
    (environment : Environment) (words : List String) :
    (∃! ending, Ends environment words ending) ∧
      (∀ ending, Ends environment words ending →
        ending.Leaves (runWith render environment words)) ∧
      (∀ (plan : Replay.Plan) (fault : Fault), plan.replay ≠ .error fault) ∧
      (IsLine usage ∧ ∀ flag : Flag, flag.word.toList <:+: usage.toList) ∧
      (∀ report : Replay.Report,
        HasLines (reportText report) (report.deliveries.length + 1)) ∧
      ∀ report other : Replay.Report, report ≠ other → reportText report ≠ reportText other := by
  obtain ⟨ending, ends⟩ := exists_ends environment words
  have only (other : Ending) (otherwise : Ends environment words other) : other = ending :=
    otherwise.unique ends
  have told (report other : Replay.Report) (differ : report ≠ other) :
      reportText report ≠ reportText other :=
    fun same => differ (reportText_inj same)
  exact ⟨⟨ending, ends, only⟩, fun _ ends => ends.leaves shows, replay_ne_error,
    ⟨isLine_usage, word_infix_usage⟩, hasLines_reportText, told⟩

theorem failureText_shows : ShowsFaults failureText := by
  intro context fault
  simp only [failureText, String.toList_append]
  exact ⟨_, _, rfl⟩

/-- A state that is none is refused, and the errors say so. -/
theorem refused_ends :
    ShowsFaults failureText ∧
      Ends {} ["herald", "--owner=me", "--initial", "paused"] (.refusal (.unknownState "paused")) ∧
      (run {} ["herald", "--owner=me", "--initial", "paused"]).code = 1 ∧
      (run {} ["herald", "--owner=me", "--initial", "paused"]).output = "" ∧
      "Warn: unknown lifecycle state".toList <:+:
        (run {} ["herald", "--owner=me", "--initial", "paused"]).errors.toList := by
  have ends : Ends {} ["herald", "--owner=me", "--initial", "paused"]
      (.refusal (.unknownState "paused")) := .refusal rfl rfl
  obtain ⟨code, output, text, reads, written⟩ :=
    (run_ends failureText_shows {} ["herald", "--owner=me", "--initial", "paused"]).2.1 _ ends
  obtain rfl := Fault.reads_iff.1 reads
  exact ⟨failureText_shows, ends, code, output, written⟩

end Herald.CommandLine
