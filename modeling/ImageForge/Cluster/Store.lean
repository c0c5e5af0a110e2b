import ImageForge.Cluster.Request
/-!
A cluster held in memory. It keeps versions, deletes an object with finalizers only when the last of
them is gone, removes the jobs of a deleted image build, and can be told to refuse or to hang.
-/

namespace ImageForge.Cluster

/-- A change that a call has made. -/
inductive Event
  | finalizerAdded (key : Key)
  | finalizerRemoved (key : Key)
  | statusPatched (key : Key)
  | jobCreated (key : Key)
  | jobDeleted (key : Key)
  deriving DecidableEq, Repr

/-- A failure that the next call of some kind meets. -/
inductive Injected
  | error (message : String)
  | rejection (message : String)
  deriving DecidableEq, Repr

def Injected.toError : Injected → ClusterError
  | .error message => .api message
  | .rejection message => .invalid message

structure Store where
  imageBuilds : Table ImageBuild := []
  jobs : Table Job := []
  events : List Event := []
  failures : List (Operation × Injected) := []
  stalled : List Operation := []
  holdJobDeletions : Bool := false
  version : Nat := 0

/-- The time that deleted objects are marked with. -/
def deletionTime : Instant := ⟨1767225600, 0⟩

namespace Store

/-- The store with the next version, and that version. The count has no bound here: a store that keeps it
in 64 bits does the same as long as there are fewer than 2^64 changes. -/
def bump (s : Store) : Store × String :=
  ({ s with version := s.version + 1 }, toString (s.version + 1))

def record (s : Store) (e : Event) : Store := { s with events := s.events ++ [e] }

/-- Removes the jobs that an object owned. -/
def collectGarbage (s : Store) (uid : Option String) : Store :=
  match uid with
  | none => s
  | some uid => { s with jobs := s.jobs.keep (!·.isOwnedBy uid) }

/-- Stores an image build, completing its namespace, uid and generation, under a new version. -/
def addImageBuild (s : Store) (b : ImageBuild) : Store :=
  let key : Key := ⟨b.metadata.ns.getD "default", b.metadata.displayName⟩
  let (s, version) := s.bump
  let metadata := { b.metadata with
    ns := some key.ns
    uid := some (b.metadata.uid.getD ("uid-" ++ key.ns ++ "-" ++ key.name))
    generation := some (b.metadata.generation.getD 1)
    resourceVersion := some version }
  { s with imageBuilds := s.imageBuilds.put key { b with metadata } }

/-- Stores a job in a namespace. -/
def insertJob (s : Store) (ns : String) (job : Job) : Store :=
  let job := { job with metadata := { job.metadata with ns := some ns } }
  { s with jobs := s.jobs.put ⟨ns, job.metadata.displayName⟩ job }

/-- Reports the status of a stored job. -/
def setJobStatus (s : Store) (key : Key) (status : JobStatus) : Store :=
  match s.jobs.get? key with
  | none => s
  | some job => { s with jobs := s.jobs.put key { job with status := some status } }

/-- Deletes an image build: it is marked, and goes at once when it has no finalizer. -/
def markForDeletion (s : Store) (key : Key) : Store :=
  match s.imageBuilds.get? key with
  | none => s
  | some b =>
    let (s, version) := s.bump
    let b := { b with metadata := { b.metadata with
      deletionTimestamp := some deletionTime, resourceVersion := some version } }
    if b.metadata.finalizerList.isEmpty then
      { s with imageBuilds := s.imageBuilds.erase key }.collectGarbage b.metadata.uid
    else { s with imageBuilds := s.imageBuilds.put key b }

/-- From now on deleted jobs stay as terminating ones, or go at once. -/
def setHoldJobDeletions (s : Store) (hold : Bool) : Store := { s with holdJobDeletions := hold }

/-- Removes the jobs that are terminating. -/
def completeJobDeletions (s : Store) : Store :=
  { s with jobs := s.jobs.keep (!·.metadata.isBeingDeleted) }

/-- Lets the next call of a kind fail. -/
def inject (s : Store) (op : Operation) (failure : Injected) : Store :=
  { s with failures := (op, failure) :: s.failures.filter (·.1 ≠ op) }

/-- Lets all calls of a kind hang. -/
def stall (s : Store) (op : Operation) : Store := { s with stalled := op :: s.stalled }

/-- Writes the finalizers of an image build from a snapshot. A snapshot without a version is not
checked. The last finalizer of a deleted object takes the object along, with its jobs. -/
def writeFinalizers (s : Store) (snapshot : ImageBuild) (finalizers : List String) :
    Except ClusterError Store :=
  let key := snapshotKey snapshot
  match s.imageBuilds.get? key with
  | none => .error (.notFound (imageBuildText key))
  | some stored =>
    if snapshot.metadata.resourceVersion.isSome ∧
        stored.metadata.resourceVersion ≠ snapshot.metadata.resourceVersion then
      .error (.conflict (imageBuildText key))
    else
      let (s, version) := s.bump
      let stored := { stored with metadata := { stored.metadata with
        finalizers := if finalizers.isEmpty then none else some finalizers
        resourceVersion := some version } }
      if stored.isBeingDeleted ∧ finalizers.isEmpty then
        .ok ({ s with imageBuilds := s.imageBuilds.erase key }.collectGarbage stored.metadata.uid)
      else .ok { s with imageBuilds := s.imageBuilds.put key stored }

/-- The finalizers with one more at the end, unless it is there. -/
def withFinalizer (finalizers : List String) (f : String) : List String :=
  if f ∈ finalizers then finalizers else finalizers ++ [f]

/-- The finalizers without every occurrence of one. -/
def withoutFinalizer (finalizers : List String) (f : String) : List String :=
  finalizers.filter (· ≠ f)

def patchStatus (s : Store) (key : Key) (status : ImageBuildStatus) : Except ClusterError Store :=
  match s.imageBuilds.get? key with
  | none => .error (.notFound (imageBuildText key))
  | some stored =>
    let (s, version) := s.bump
    let stored := { stored with
      status := some status
      metadata := { stored.metadata with resourceVersion := some version } }
    .ok { s with imageBuilds := s.imageBuilds.put key stored }

def createJob (s : Store) (ns : String) (job : Job) : Except ClusterError Store :=
  let key : Key := ⟨ns, job.metadata.displayName⟩
  match s.jobs.get? key with
  | some _ => .error (.alreadyExists (jobText key))
  | none =>
    let (s, version) := s.bump
    let job := { job with metadata := { job.metadata with
      ns := some ns
      uid := some ("uid-job-" ++ ns ++ "-" ++ key.name)
      resourceVersion := some version } }
    .ok { s with jobs := s.jobs.put key job }

/-- Deletes a job, or marks it when deletions are held; a job that is not there is no error. -/
def deleteJob (s : Store) (key : Key) : Store :=
  if s.holdJobDeletions then
    match s.jobs.get? key with
    | none => s
    | some job =>
      let job := { job with metadata := { job.metadata with
        deletionTimestamp := some deletionTime } }
      { s with jobs := s.jobs.put key job }
  else { s with jobs := s.jobs.erase key }

/-- Carries out a call that nothing stops: the answer, and the store with what has changed. -/
def perform (s : Store) : (r : Request) → Answer r × Store
  | .getImageBuild key => (.ok (s.imageBuilds.get? key), s)
  | .getJob key => (.ok (s.jobs.get? key), s)
  | .addFinalizer b f => commit (.finalizerAdded (snapshotKey b))
      (s.writeFinalizers b (withFinalizer b.metadata.finalizerList f))
  | .removeFinalizer b f => commit (.finalizerRemoved (snapshotKey b))
      (s.writeFinalizers b (withoutFinalizer b.metadata.finalizerList f))
  | .patchStatus key status => commit (.statusPatched key) (s.patchStatus key status)
  | .createJob ns job =>
    commit (.jobCreated ⟨ns, job.metadata.displayName⟩) (s.createJob ns job)
  | .deleteJob key => commit (.jobDeleted key) (.ok (s.deleteJob key))
where
  /-- A change is recorded when it succeeds; one that fails leaves the store as it was. -/
  commit (e : Event) (result : Except ClusterError Store) : Except ClusterError Unit × Store :=
    match result with
    | .ok s' => (.ok (), s'.record e)
    | .error err => (.error err, s)

/-- The failure that waits for a kind of call. -/
def injected? (s : Store) (op : Operation) : Option Injected :=
  (s.failures.find? (·.1 = op)).map (·.2)

/-- Answers a call; `none` when it hangs. A failure that waits for this kind of call is used up. -/
def answer (s : Store) (r : Request) : Option (Answer r × Store) :=
  let op := r.operation
  if op ∈ s.stalled then none
  else match s.injected? op with
    | some f => some (.error f.toError, { s with failures := s.failures.filter (·.1 ≠ op) })
    | none => some (s.perform r)

end Store

/-- A finished run of a program: the calls it made, its result unless it hangs in the last of them,
and the store after it. -/
structure Run (α : Type) where
  calls : List Request
  result : Option α
  store : Store

/-- Runs a program on a store. -/
def Program.run {α : Type} (s : Store) : Program α → Run α
  | .done a => ⟨[], some a, s⟩
  | .call r next =>
    match s.answer r with
    | none => ⟨[r], none, s⟩
    | some (a, s') =>
      let rest := (next a).run s'
      { rest with calls := r :: rest.calls }

end ImageForge.Cluster
