import FullText.Main
import FullText.Registry
import FullText.Value.Choice
import FullText.Proofs.Outcome
import FullText.Proofs.Plan.Compiled
import FullText.Proofs.Query.Notation
import FullText.Proofs.Plan.Narrowing
import FullText.Proofs.Registry.Runs
import FullText.Proofs.Sql.SearchText
import FullText.Proofs.Options.Layers
import FullText.Proofs.Options.Reachable
import FullText.Proofs.Plan.Rejection
import FullText.Proofs.Plan.Coherence
import FullText.Proofs.Sql.Additions
import FullText.Proofs.Registry.Uses
import FullText.Proofs.Term.NormalForm
import FullText.Proofs.Sql.Filters
import FullText.Proofs.Sql.AdHoc
import FullText.Proofs.CommandLine.Endings
import FullText.Proofs.Options.LastSetting
import FullText.Proofs.Options.RoundTrip
import FullText.Proofs.Options.Refusals
import FullText.Proofs.Sql.DocumentText
import FullText.Proofs.Plan.Description
import FullText.Proofs.Options.FieldEntries
import FullText.Proofs.Settings.Variables
import FullText.Proofs.CommandLine.Precedence
import FullText.Proofs.Sql.AdHocSelection
import FullText.Proofs.Column.WrittenForm
