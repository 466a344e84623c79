import Treadmill.Zksync.State
import Treadmill.Zksync.Io
import Treadmill.Zksync.Merge
import Treadmill.Zksync.Engine
import Treadmill.Zksync.System
import Treadmill.Zksync.Triple
import Treadmill.Zksync.Pass
import Treadmill.Zksync.Frame
import Treadmill.Zksync.Callbacks
import Treadmill.Zksync.Coverage
import Treadmill.Zksync.Closure
import Treadmill.Zksync.Subscriptions
import Treadmill.Zksync.Done
import Treadmill.Zksync.Readiness
import Treadmill.Zksync.Atomic
import Treadmill.Zksync.Convergence
import Treadmill.Zksync.Idempotence
import Treadmill.Zksync.Confinement
import Treadmill.Allocation.Reservation
import Treadmill.Allocation.Concurrent
import Treadmill.Allocation.Admission
import Treadmill.Allocation.Serial
import Treadmill.Allocation.Listing
import Treadmill.App.Api
import Treadmill.App.Concurrent
import Treadmill.App.Serial
import Treadmill.Runtime.Ports
import Treadmill.S6.Services
import Treadmill.S6.RoundTrip
import Treadmill.Sproc.Init
import Treadmill.Sproc.Lifecycle
import Treadmill.Sproc.Refinement
