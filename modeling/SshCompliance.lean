import SshCompliance.Decap.Change
import SshCompliance.Decap.ActiveSide
import SshCompliance.Files.Tree
import SshCompliance.Main
import SshCompliance.Proofs.Session.Runs
import SshCompliance.Proofs.Session.History
import SshCompliance.Proofs.Session.Accounting
import SshCompliance.Proofs.Session.SideBySide
import SshCompliance.Proofs.Session.Separation
import SshCompliance.Proofs.Json.Strings
import SshCompliance.Proofs.Json.Reading
import SshCompliance.Proofs.Json.RoundTrip
import SshCompliance.Proofs.Matrix
import SshCompliance.Proofs.Config.Sheet
import SshCompliance.Proofs.Json.Untyped
import SshCompliance.Proofs.Config.Layering
import SshCompliance.Proofs.Config.InForce
import SshCompliance.Proofs.CommandLine.Production
import SshCompliance.Proofs.CommandLine.Printing
import SshCompliance.Proofs.CommandLine.Outcome
import SshCompliance.Proofs.Decap.Plan
import SshCompliance.Proofs.Decap.Configuration
import SshCompliance.Proofs.Decap.Restoration
import SshCompliance.Proofs.Decap.Reach
import SshCompliance.Proofs.Testbed.Entries
import SshCompliance.Proofs.Testbed.Hosts
import SshCompliance.Proofs.Testbed.Rows
import SshCompliance.Proofs.Testbed.Layouts
import SshCompliance.Proofs.Testbed.Fields
import SshCompliance.Proofs.Testbed.Grammar
import SshCompliance.Proofs.Session.Policies
import SshCompliance.Proofs.Session.Retry
import SshCompliance.Proofs.Config.Parts
import SshCompliance.Proofs.AllowList.Portions
import SshCompliance.Proofs.Text.Occurrence
import SshCompliance.Proofs.Text.Words
import SshCompliance.Proofs.Device.Names
import SshCompliance.Proofs.Config.Validity
import SshCompliance.Proofs.Text.Items
import SshCompliance.Proofs.AllowList.Decoding
import SshCompliance.Proofs.AllowList.Operations
import SshCompliance.Proofs.Device.Query
import SshCompliance.Proofs.Session.Calls
import SshCompliance.Proofs.Testbed.File
import SshCompliance.Proofs.CommandLine.Opening
import SshCompliance.Proofs.Decap.Loopbacks
import SshCompliance.Proofs.Session.Identifiers
import SshCompliance.Proofs.Config.Levels
