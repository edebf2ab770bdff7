import WireSchema.CommandLine.Directory
import WireSchema.Definition.Edit
import WireSchema.Main
import WireSchema.Proofs.BitRanges
import WireSchema.Proofs.CommandLine
import WireSchema.Proofs.Editing
import WireSchema.Proofs.ErrorLines
import WireSchema.Proofs.IdNotations
import WireSchema.Proofs.Lookups
import WireSchema.Proofs.Messages
import WireSchema.Proofs.Outline.Definition
import WireSchema.Proofs.Progress
import WireSchema.Proofs.Reordering
import WireSchema.Proofs.Report
import WireSchema.Proofs.ReportLines
import WireSchema.Proofs.RoundTrip
import WireSchema.Proofs.Size
