import Herald.Main
import Herald.Registry.History
import Herald.Registry.Report
import Herald.Registry.Run
import Herald.Roster.Lemmas
import Herald.Roster.Log
import Herald.Roster.Report
import Herald.Roster.Run
import Herald.Proofs.Roster.Step
import Herald.Proofs.Roster.Stack
import Herald.Proofs.Roster.Change
import Herald.Proofs.Roster.Invariant
import Herald.Proofs.Roster.Order
import Herald.Proofs.Roster.Access
import Herald.Proofs.Roster.Holders
import Herald.Proofs.Roster.Termination
import Herald.Proofs.Roster.Traversal
import Herald.Proofs.Roster.LettingGo
import Herald.Proofs.Roster.Walk
import Herald.Proofs.Roster.Underway
import Herald.Proofs.Roster.Lifetime
import Herald.Proofs.Roster.Journal
import Herald.Proofs.Roster.Numbering
import Herald.Proofs.Roster.Clearing
import Herald.Proofs.Roster.Completion
import Herald.Proofs.Roster.Reading
import Herald.Proofs.Roster.Insertion
import Herald.Proofs.Registry.Step
import Herald.Proofs.Registry.Level
import Herald.Proofs.Registry.Change
import Herald.Proofs.Registry.Chain
import Herald.Proofs.Registry.Dispatch
import Herald.Proofs.Registry.Failure
import Herald.Proofs.Registry.Notification
import Herald.Proofs.Registry.Cascade
import Herald.Proofs.Replay.Rounds
import Herald.Proofs.Replay.Report
import Herald.Proofs.Replay.Journal
import Herald.Proofs.Replay.Log
import Herald.Proofs.Replay.Program
import Herald.Proofs.Text.Grammar
import Herald.Proofs.Label
import Herald.Proofs.StateText
import Herald.Proofs.Settings.Scan
import Herald.Proofs.Settings.RoundTrip
import Herald.Proofs.Settings.Refusal
import Herald.Proofs.Settings.Verdict
import Herald.Proofs.Settings.StateList
import Herald.Proofs.Settings.Precedence
import Herald.Proofs.CommandLine.ReportText
import Herald.Proofs.CommandLine.Ending
