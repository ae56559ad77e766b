import Vigil.Bench.Loans
import Vigil.Bench.Session
import Vigil.Dump.Stat
import Vigil.Sampling.Sampler
import Vigil.Settings.Document
import Vigil.Settings.Overrides
import Vigil.Proofs.Observing.Course
import Vigil.Proofs.Text.Breaking
import Vigil.Proofs.Dump.Line
import Vigil.Proofs.Dump.Taking
import Vigil.Proofs.Dump.Grammar
import Vigil.Proofs.Dump.RoundTrip
import Vigil.Proofs.Dump.Truncation
import Vigil.Proofs.Text.Clipping
import Vigil.Proofs.Dump.FirstId
import Vigil.Proofs.Dump.Faults
import Vigil.Proofs.Chain.Family
import Vigil.Proofs.Kit.Deriving
import Vigil.Proofs.Observing.Binding
import Vigil.Proofs.Scopes.Interleaving
import Vigil.Proofs.Observing.Layering
import Vigil.Proofs.Sampling.Feeding
import Vigil.Proofs.Observing.Rebinding
import Vigil.Proofs.Sampling.Share
import Vigil.Proofs.Sampling.Seeds
import Vigil.Proofs.Sampling.Marking
import Vigil.Proofs.Stack.Lending
import Vigil.Proofs.Sink.Recording
import Vigil.Proofs.Observing.Delivery
import Vigil.Proofs.Settings.Capacity
import Vigil.Proofs.Settings.Overriding
import Vigil.Proofs.Dump.Capturing
import Vigil.Proofs.Chain.Ancestry
import Vigil.Proofs.Sampling.Nesting
import Vigil.Proofs.Dump.Remnants
import Vigil.Proofs.Dump.Composing
import Vigil.Proofs.Dump.Filling
import Vigil.Proofs.Source.Visiting
import Vigil.Proofs.Toolbox.History
import Vigil.Proofs.Span.Lineage
import Vigil.Proofs.Dump.StatLine
import Vigil.Proofs.Text.Cutting
import Vigil.Proofs.Stack.Sifting
import Vigil.Proofs.Stack.Reading
import Vigil.Proofs.Stack.Asking
