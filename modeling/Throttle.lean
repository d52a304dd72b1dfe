import Throttle.Main
import Throttle.Session
import Throttle.Proofs.Bucket.Room
import Throttle.Proofs.Bucket.Run
import Throttle.Proofs.Bucket.Alike
import Throttle.Proofs.Bucket.Mirror
import Throttle.Proofs.Bucket.Window
import Throttle.Proofs.Bucket.Clock
import Throttle.Proofs.Bucket.Wait
import Throttle.Proofs.Bucket.Conformance
import Throttle.Proofs.Bucket.Range
import Throttle.Proofs.Bucket.Budget
import Throttle.Proofs.Policy.Compile
import Throttle.Proofs.Policy.Valid
import Throttle.Proofs.Policy.Spelling
import Throttle.Proofs.Engine.Calls
import Throttle.Proofs.Engine.Replay
import Throttle.Proofs.Engine.Events
import Throttle.Proofs.Engine.Range
import Throttle.Proofs.Engine.Forecast
import Throttle.Proofs.Engine.Eviction
import Throttle.Proofs.Engine.Written
import Throttle.Proofs.Engine.Spelling
import Throttle.Proofs.Catalog.Isolation
import Throttle.Proofs.Catalog.Definitions
import Throttle.Proofs.Catalog.Export
import Throttle.Proofs.Session.Trace
import Throttle.Proofs.Store.Capacity
import Throttle.Proofs.Store.Eviction
import Throttle.Proofs.Store.Charge
import Throttle.Proofs.Admission.Fault
import Throttle.Proofs.Admission.Remaining
import Throttle.Proofs.Admission.Response
import Throttle.Proofs.Management.Lines
import Throttle.Proofs.Management.Listing
import Throttle.Proofs.Management.Boundary
