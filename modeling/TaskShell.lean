import TaskShell.EditDistance
import TaskShell.Main
import TaskShell.Proofs.Command.Aliases
import TaskShell.Proofs.Command.Arguments
import TaskShell.Proofs.Command.Canonical
import TaskShell.Proofs.Command.Choices
import TaskShell.Proofs.Command.FixedPoint
import TaskShell.Proofs.Command.Repair
import TaskShell.Proofs.CommandLine.Agreement
import TaskShell.Proofs.EditDistance.Minimality
import TaskShell.Proofs.Prompt.Conversation
import TaskShell.Proofs.Schema.Building
import TaskShell.Proofs.Settings.Normal
import TaskShell.Proofs.Settings.StartUp
import TaskShell.Proofs.Shell.Parents
import TaskShell.Proofs.Shell.Searching
import TaskShell.Proofs.Shell.Switches
import TaskShell.Proofs.Shell.Updating
import TaskShell.Proofs.Store.Chronology
import TaskShell.Proofs.Store.Failures
import TaskShell.Proofs.Store.ReadBack
import TaskShell.Proofs.Store.Uniqueness
import TaskShell.Proofs.Terminal.Accounting
import TaskShell.Proofs.Terminal.Dispatch
import TaskShell.Proofs.Terminal.Guidance
import TaskShell.Proofs.Terminal.History
import TaskShell.Proofs.Terminal.Keystrokes
import TaskShell.Proofs.Terminal.Navigation
import TaskShell.Proofs.Terminal.Readiness
import TaskShell.Proofs.Terminal.Restating
import TaskShell.Schema.Document
