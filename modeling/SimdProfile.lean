import SimdProfile.Host.Session
import SimdProfile.Settings.Format
import SimdProfile.Summary
import SimdProfile.Proofs.Profile.Action
import SimdProfile.Proofs.Profile.WellFormed
import SimdProfile.Proofs.Profile.Ledger
import SimdProfile.Proofs.Profile.Entries
import SimdProfile.Proofs.Profile.Observations
import SimdProfile.Proofs.Profile.Samples
import SimdProfile.Proofs.Profile.Outline
import SimdProfile.Proofs.Roster
import SimdProfile.Proofs.Archive
import SimdProfile.Proofs.Profiler
import SimdProfile.Proofs.Request
import SimdProfile.Proofs.Request.Effect
import SimdProfile.Proofs.Request.History
import SimdProfile.Proofs.Request.Alike
import SimdProfile.Proofs.Nesting
import SimdProfile.Proofs.Pairing
import SimdProfile.Proofs.Attribution
import SimdProfile.Proofs.Sampling
import SimdProfile.Proofs.Transparency
import SimdProfile.Proofs.Isolation
import SimdProfile.Proofs.Roster.Sections
import SimdProfile.Proofs.Roster.Identity
import SimdProfile.Proofs.Roster.Lifecycle
import SimdProfile.Proofs.Report
import SimdProfile.Proofs.Decimal.Digits
import SimdProfile.Proofs.Decimal.Nearest
import SimdProfile.Proofs.Decimal.Shortest
import SimdProfile.Proofs.Json.Numeral
import SimdProfile.Proofs.Json.Literal
import SimdProfile.Proofs.Json.RoundTrip
import SimdProfile.Proofs.FileTree.Directory
import SimdProfile.Proofs.Report.Name
import SimdProfile.Proofs.Archive.Search
import SimdProfile.Proofs.Archive.Writers
import SimdProfile.Proofs.Archive.Descent
import SimdProfile.Proofs.Request.Failure
import SimdProfile.Proofs.Generations
import SimdProfile.Proofs.LaneMask
import SimdProfile.Proofs.Region.Tallies
import SimdProfile.Proofs.Report.Apart
import SimdProfile.Proofs.Archive.Confinement
import SimdProfile.Proofs.Origin
import SimdProfile.Proofs.Roster.Custody
import SimdProfile.Proofs.Region.Averages
import SimdProfile.Proofs.Text.Blank
import SimdProfile.Proofs.Text.Digits
import SimdProfile.Proofs.Json.Fields
import SimdProfile.Proofs.Flags
import SimdProfile.Proofs.Settings
import SimdProfile.Proofs.Settings.Format
import SimdProfile.Proofs.Settings.Environment
import SimdProfile.Proofs.Request.LaneWidth
import SimdProfile.Proofs.Settings.InForce
import SimdProfile.Proofs.Profile.Reachable
import SimdProfile.Proofs.Json.Spelling
import SimdProfile.Proofs.Json.Line
import SimdProfile.Proofs.Json.Schema
import SimdProfile.Proofs.Report.Tolerance
import SimdProfile.Proofs.Log.JsonLines
