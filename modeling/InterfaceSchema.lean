import InterfaceSchema.Main
import InterfaceSchema.Schema.Spec
import InterfaceSchema.Proofs.Schema.RoundTrip
import InterfaceSchema.Proofs.Catalog.FirstFailure
import InterfaceSchema.Proofs.Catalog.Index
import InterfaceSchema.Proofs.Machine.Safety
import InterfaceSchema.Proofs.Catalog.References
import InterfaceSchema.Proofs.Catalog.Standing
import InterfaceSchema.Proofs.Catalog.Anomalies
import InterfaceSchema.Catalog.Reorder
import InterfaceSchema.Proofs.Catalog.Order
import InterfaceSchema.Proofs.Catalog.Reorder
import InterfaceSchema.Proofs.Catalog.Layouts
import InterfaceSchema.Catalog.Decoding
import InterfaceSchema.Proofs.Catalog.Decoding
import InterfaceSchema.Proofs.Catalog.Rendering
import InterfaceSchema.Proofs.Catalog.Lossless
import InterfaceSchema.Proofs.Catalog.Growth
import InterfaceSchema.Proofs.Catalog.Merging
import InterfaceSchema.Proofs.Catalog.Interfaces
import InterfaceSchema.Proofs.Catalog.Provenance
import InterfaceSchema.Catalog.Documented
import InterfaceSchema.Proofs.Catalog.Documented
import InterfaceSchema.Catalog.Wording
import InterfaceSchema.Proofs.Catalog.Wording
import InterfaceSchema.Proofs.Catalog.Messages
import InterfaceSchema.Schema.Gate
import InterfaceSchema.Proofs.Schema.Gate
import InterfaceSchema.Machine.Writer
import InterfaceSchema.Proofs.Bytes.Edits
import InterfaceSchema.Proofs.Machine.Writing
import InterfaceSchema.Draft
import InterfaceSchema.Proofs.Layout.Drafts
import InterfaceSchema.Proofs.Layout.ReadBack
import InterfaceSchema.Proofs.Runs
