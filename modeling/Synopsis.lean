import Synopsis.Main
import Synopsis.Proofs.Help.Assignment
import Synopsis.Proofs.Help.Description
import Synopsis.Proofs.Help.Layout
import Synopsis.Proofs.Help.Mention
import Synopsis.Proofs.Help.WellFormed
import Synopsis.Proofs.Project.Reordered
import Synopsis.Proofs.Project.Standard
import Synopsis.Proofs.Project.Outcome
import Synopsis.Proofs.Readme.Heading
import Synopsis.Proofs.Script.Quoting
import Synopsis.Proofs.Script.Recover
import Synopsis.Proofs.Template.Slots
import Synopsis.Script.Bundled
import Synopsis.Script.Recover
import Synopsis.Table.Validity
import Synopsis.Proofs.Help.Diagnostics
import Synopsis.Proofs.Help.Excluding
import Synopsis.Proofs.Script.Listing
import Synopsis.Proofs.Table.Load
import Synopsis.Proofs.Script.Loaded
import Synopsis.Proofs.Text.Bytes
import Synopsis.Proofs.Project.Commands
import Synopsis.Proofs.Project.Install
import Synopsis.Proofs.Json.Printed
import Synopsis.Proofs.Table.History
import Synopsis.Proofs.Table.Print
import Synopsis.Proofs.Flag.Literal
import Synopsis.Proofs.Help.Pieces
import Synopsis.Proofs.Table.Columns
import Synopsis.Proofs.Config.Loaded
