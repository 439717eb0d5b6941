import MenuShell.Arguments.Basic
import MenuShell.Arguments.Parse
import MenuShell.Arguments.Usage
import MenuShell.CommandLine
import MenuShell.Commands.Builder
import MenuShell.Commands.Capture
import MenuShell.Commands.Conditional
import MenuShell.Commands.Menu
import MenuShell.Commands.Number
import MenuShell.Commands.Procedures
import MenuShell.Commands.Recording
import MenuShell.Commands.Samples
import MenuShell.Comparison
import MenuShell.Failure
import MenuShell.FileSystem
import MenuShell.Input.ByteStream
import MenuShell.Input.Channel
import MenuShell.Input.Prompts
import MenuShell.Input.Source
import MenuShell.Input.Stack
import MenuShell.Main
import MenuShell.Procedure.Basic
import MenuShell.Procedure.Call
import MenuShell.Procedure.Store
import MenuShell.Records.Selection
import MenuShell.Records.Store
import MenuShell.Script
import MenuShell.Settings
import MenuShell.Shell.Bound
import MenuShell.Shell.Run
import MenuShell.Shell.Start
import MenuShell.Shell.State
import MenuShell.Sorting
import MenuShell.Text.CaseTable
import MenuShell.Text.Cluster
import MenuShell.Text.ClusterTable
import MenuShell.Text.ControlSequence
import MenuShell.Text.Erasing
import MenuShell.Text.HiddenTable
import MenuShell.Text.LetterCase
import MenuShell.Text.Lines
import MenuShell.Text.Quoted
import MenuShell.Text.Words
import MenuShell.Tree.Basic
import MenuShell.Tree.Edit
import MenuShell.Tree.Help
import MenuShell.Tree.Inspect
import MenuShell.Tree.Resolve
import MenuShell.Tree.Route
import MenuShell.Proofs.Tree.Forest
import MenuShell.Proofs.Tree.Links
import MenuShell.Proofs.Tree.Changes
import MenuShell.Proofs.Tree.Reachable
import MenuShell.Proofs.Tree.Modes
import MenuShell.Proofs.Tree.Siblings
import MenuShell.Proofs.Tree.Meaning
import MenuShell.Proofs.Text.Beginnings
import MenuShell.Proofs.Tree.Shortening
import MenuShell.Proofs.Input.Backlog
import MenuShell.Proofs.Input.Requests
import MenuShell.Proofs.Shell.Ending
import MenuShell.Proofs.Shell.Mistakes
import MenuShell.Proofs.Text.Splitting
import MenuShell.Proofs.Input.Giving
import MenuShell.Proofs.Tree.Adding
import MenuShell.Proofs.Shell.Collecting
import MenuShell.Proofs.Shell.Capturing
import MenuShell.Proofs.Shell.Rules
import MenuShell.Proofs.Shell.Points
import MenuShell.Proofs.Shell.Prompting
import MenuShell.Proofs.Shell.Conduct
import MenuShell.Proofs.Shell.Usual
import MenuShell.Proofs.Tree.Room
import MenuShell.Proofs.Shell.Outfit
import MenuShell.Proofs.Text.Decoding
import MenuShell.Proofs.Input.Legible
import MenuShell.Proofs.Shell.Surviving
import MenuShell.Proofs.Input.Spreading
import MenuShell.Proofs.Shell.Spreading
import MenuShell.Proofs.Procedure.Body
import MenuShell.Proofs.Shell.Defining
import MenuShell.Proofs.Tree.Hiding
import MenuShell.Proofs.Text.Encoding
import MenuShell.Proofs.Records.Folder
import MenuShell.Proofs.Records.Keeping
import MenuShell.Proofs.Records.Exchange
import MenuShell.Proofs.Shell.Between
import MenuShell.Proofs.Shell.Replaying
import MenuShell.Proofs.Text.Wording
import MenuShell.Proofs.Tree.Advice
import MenuShell.Proofs.Shell.Advising
import MenuShell.Proofs.Tree.Refusals
import MenuShell.Proofs.Tree.Rearranging
import MenuShell.Proofs.Tree.Attaching
import MenuShell.Proofs.Shell.Halfway
import MenuShell.Proofs.Input.Advancing
import MenuShell.Proofs.Shell.Gathering
import MenuShell.Proofs.Shell.Blunders
import MenuShell.Proofs.Input.Sending
import MenuShell.Proofs.Text.Spacing
import MenuShell.Proofs.Tree.Listing
import MenuShell.Proofs.Tree.Walking
import MenuShell.Proofs.Shell.Leading
import MenuShell.Proofs.Tree.Governing
import MenuShell.Proofs.Tree.Hanging
import MenuShell.Proofs.Tree.Rehanging
import MenuShell.Proofs.Input.Fetching
import MenuShell.Proofs.Tree.Finishing
import MenuShell.Proofs.Procedure.Labels
import MenuShell.Proofs.Records.Selecting
import MenuShell.Proofs.Records.Overlaying
import MenuShell.Proofs.Records.Choosing
import MenuShell.Proofs.Shell.Conditions
import MenuShell.Proofs.Shell.Chains
import MenuShell.Proofs.Shell.Suggesting
import MenuShell.Proofs.Input.Reading
import MenuShell.Proofs.Shell.Samples
import MenuShell.Proofs.Shell.Repeating
import MenuShell.Proofs.Text.Numbers
import MenuShell.Proofs.Shell.Summing
import MenuShell.Proofs.Text.Peeling
