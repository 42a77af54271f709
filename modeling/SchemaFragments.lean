import SchemaFragments.Main
import SchemaFragments.Proofs.Extraction.Layout
import SchemaFragments.Proofs.Document.Braces
import SchemaFragments.Proofs.Document.Crowded
import SchemaFragments.Proofs.Document.Fields
import SchemaFragments.Proofs.Plan.Spreads
import SchemaFragments.Proofs.Plan.Asked
import SchemaFragments.Proofs.Plan.Returns
import SchemaFragments.Proofs.Plan.Selection
import SchemaFragments.Proofs.Run.History
import SchemaFragments.Proofs.Run.Absorb
import SchemaFragments.Proofs.Run.Failed
import SchemaFragments.Proofs.Run.Confined
import SchemaFragments.Proofs.Run.Listing
import SchemaFragments.Proofs.Run.Order
import SchemaFragments.Proofs.Run.Written
import SchemaFragments.Proofs.Run.Absent
import SchemaFragments.Proofs.Regex.Growth
import SchemaFragments.Proofs.Regex.Matches
import SchemaFragments.Proofs.Extraction.AllOrNothing
import SchemaFragments.Proofs.Document.Lines
import SchemaFragments.Proofs.Document.Overlooked
import SchemaFragments.Proofs.Plan.Union
import SchemaFragments.Proofs.Run.Defined
import SchemaFragments.Proofs.Extraction.Extension
import SchemaFragments.Proofs.Run.Reporting
import SchemaFragments.Proofs.Run.Colored
import SchemaFragments.Proofs.Table.Listed
import SchemaFragments.Proofs.CommandLine.Globals
