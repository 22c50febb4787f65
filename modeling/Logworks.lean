import Logworks.Ambient
import Logworks.Health.Report
import Logworks.Network.Wire
import Logworks.Predicate
import Logworks.Proofs.Delivery.Stranded
import Logworks.Proofs.Delivery.Synchronous
import Logworks.Proofs.Rotation.Refinement
import Logworks.Rotation.Slot
import Logworks.Session.Answering
import Logworks.Proofs.Delivery.Draining
import Logworks.Proofs.Delivery.Parting
import Logworks.Proofs.Delivery.Relay
import Logworks.Proofs.Delivery.Accounting
import Logworks.Proofs.Delivery.Marks
import Logworks.Proofs.Delivery.Barrier
import Logworks.Proofs.Ring.Exactness
import Logworks.Proofs.Rotation.Compression
import Logworks.Proofs.Fanout.Isolation
import Logworks.Proofs.Admission.Meaning
import Logworks.Proofs.Line.OneLine
import Logworks.Proofs.Health.Agreement
import Logworks.Proofs.Json.Decoding
import Logworks.Proofs.Json.Reading
import Logworks.Proofs.Config.Keeping
import Logworks.Proofs.Sink.Requests
import Logworks.Proofs.File.DocumentLines
import Logworks.Proofs.Batch.Shipping
import Logworks.Proofs.Network.Collected
import Logworks.Proofs.Fanout.Ways
import Logworks.Proofs.Health.Registering
import Logworks.Proofs.Delivery.Overflow
import Logworks.Proofs.Rotation.Bounds
import Logworks.Proofs.Fanout.Flushing
import Logworks.Proofs.Ring.Faltering
import Logworks.Proofs.Ring.Wrapping
import Logworks.Proofs.Rotation.Accounting
import Logworks.Proofs.Level.Naming
import Logworks.Proofs.Line.Patterns
import Logworks.Proofs.Ambient.Scopes
import Logworks.Proofs.Health.Grading
import Logworks.Proofs.Text.Escaping
import Logworks.Proofs.Rotation.Distinct
import Logworks.Proofs.Metrics.Coherence
