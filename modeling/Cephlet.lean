import Cephlet.Api
import Cephlet.World
import Cephlet.Reconcile.Program
import Cephlet.Reconcile.Run
import Cephlet.Reconcile.Paths
import Cephlet.Reconcile.Isolation
import Cephlet.System.Step
import Cephlet.System.Invariant
import Cephlet.System.RunStep
import Cephlet.System.Trace
import Cephlet.System.Safety
import Cephlet.System.Versions
import Cephlet.System.Outcomes
import Cephlet.System.Reference
import Cephlet.System.Retry
import Cephlet.Controller.Queue
import Cephlet.Controller.Start
import Cephlet.Controller.Wakeup
import Cephlet.Bucket.Create
