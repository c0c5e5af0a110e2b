import ImageForge.Cluster.Error
import ImageForge.Cluster.Table
import ImageForge.Resource.ImageBuild
import ImageForge.Resource.Job
/-!
The calls that the controller makes to the cluster, and programs made of them.
-/

namespace ImageForge.Cluster

/-- The kinds of calls. -/
inductive Operation
  | getImageBuild
  | addFinalizer
  | removeFinalizer
  | patchStatus
  | getJob
  | createJob
  | deleteJob
  deriving DecidableEq, Repr

/-- A call. Finalizers are written from a snapshot, whose version guards the write. -/
inductive Request
  | getImageBuild (key : Key)
  | addFinalizer (snapshot : ImageBuild) (finalizer : String)
  | removeFinalizer (snapshot : ImageBuild) (finalizer : String)
  | patchStatus (key : Key) (status : ImageBuildStatus)
  | getJob (key : Key)
  | createJob (ns : String) (job : Job)
  | deleteJob (key : Key)

/-- How messages name an image build. -/
def imageBuildText (k : Key) : String := "ImageBuild " ++ k.text

/-- How messages name a job. -/
def jobText (k : Key) : String := "Job " ++ k.text

/-- The key under which an image build is stored, as its metadata has it. -/
def snapshotKey (b : ImageBuild) : Key := ⟨b.metadata.ns.getD "", b.metadata.displayName⟩

namespace Request

def operation : Request → Operation
  | .getImageBuild _ => .getImageBuild
  | .addFinalizer _ _ => .addFinalizer
  | .removeFinalizer _ _ => .removeFinalizer
  | .patchStatus _ _ => .patchStatus
  | .getJob _ => .getJob
  | .createJob _ _ => .createJob
  | .deleteJob _ => .deleteJob

/-- The object that a call is about. -/
def key : Request → Key
  | .getImageBuild k | .patchStatus k _ | .getJob k | .deleteJob k => k
  | .addFinalizer b _ | .removeFinalizer b _ => snapshotKey b
  | .createJob ns job => ⟨ns, job.metadata.displayName⟩

/-- What a successful call answers. -/
abbrev Reply : Request → Type
  | .getImageBuild _ => Option ImageBuild
  | .getJob _ => Option Job
  | _ => Unit

end Request

/-- The answer of a call. -/
abbrev Answer (r : Request) := Except ClusterError r.Reply

/-- A program that calls the cluster: it is over, or it makes a call and goes on with the answer. -/
inductive Program (α : Type)
  | done (result : α)
  | call (r : Request) (next : Answer r → Program α)

end ImageForge.Cluster
