import DocumentFilter.Document.Identity
import DocumentFilter.Document.Json
import DocumentFilter.Document.Order
import DocumentFilter.Filter.Basic
import DocumentFilter.Proofs.Document.AlignedSides
import DocumentFilter.Proofs.Document.DottedNames
import DocumentFilter.Proofs.Document.Equality
import DocumentFilter.Proofs.Document.Growth
import DocumentFilter.Proofs.Document.Instants
import DocumentFilter.Proofs.Document.JsonRoundTrip
import DocumentFilter.Proofs.Document.MixedNumbers
import DocumentFilter.Proofs.Document.Transitivity
import DocumentFilter.Proofs.Document.WrittenText
import DocumentFilter.Proofs.Filter.Alternatives
import DocumentFilter.Proofs.Filter.BooleanLaws
import DocumentFilter.Proofs.Filter.Existence
import DocumentFilter.Proofs.Filter.FirstDifference
import DocumentFilter.Proofs.Filter.FirstFault
import DocumentFilter.Proofs.Filter.Grammar
import DocumentFilter.Proofs.Filter.Growth
import DocumentFilter.Proofs.Filter.Isolation
import DocumentFilter.Proofs.Filter.Items
import DocumentFilter.Proofs.Filter.Lengths
import DocumentFilter.Proofs.Filter.Meaning
import DocumentFilter.Proofs.Filter.Mending
import DocumentFilter.Proofs.Filter.Mirror
import DocumentFilter.Proofs.Filter.NestedNumbers
import DocumentFilter.Proofs.Filter.Reordering
import DocumentFilter.Proofs.Filter.Safety
