import ImageForge.Address.Target
import ImageForge.Cluster.Body
import ImageForge.Cluster.Request
/-!
Calls to the cluster over HTTP: the request that a call sends, and what the response answers.
-/

namespace ImageForge.Cluster.Http

structure HttpRequest where
  method : String
  target : Address.Target
  contentType : Option String := none
  body : Option Json := none

/-- The request whose target is a text; `none` when the text is no target. -/
def request? (method target : String) (contentType : Option String) (body : Option Json) :
    Option HttpRequest :=
  (Address.Target.parse? target).map fun t => ⟨method, t, contentType, body⟩

/-- A response; `none` stands for a transport that failed. -/
structure HttpResponse where
  status : Nat
  body : String

/-- The path of all objects of a kind, or of those in one namespace. -/
def collectionPath (apiVersion plural : String) : Option String → String
  | none => "/apis/" ++ apiVersion ++ "/" ++ plural
  | some ns => "/apis/" ++ apiVersion ++ "/namespaces/" ++ ns ++ "/" ++ plural

/-- The path of the image builds of a namespace. -/
def imageBuildsPath (ns : String) : String :=
  collectionPath ImageBuild.apiVersion ImageBuild.plural (some ns)

/-- The path of the jobs of a namespace. -/
def jobsPath (ns : String) : String := collectionPath Job.apiVersion Job.plural (some ns)

def imageBuildPath (k : Key) : String := imageBuildsPath k.ns ++ "/" ++ k.name

def jobPath (k : Key) : String := jobsPath k.ns ++ "/" ++ k.name

/-- The longest name of a field manager, in bytes. -/
def maxManagerBytes : Nat := 128

/-- A request that writes under the name of a field manager. -/
def write? (method manager path contentType : String) (body : Json) : Option HttpRequest :=
  if maxManagerBytes < manager.utf8ByteSize then none
  else request? method (Address.Target.withParameters path [("fieldManager", manager)])
    (some contentType) (some body)

/-- A merge patch under the name of a field manager. -/
def mergePatch? (manager path : String) (patch : Json) : Option HttpRequest :=
  write? "PATCH" manager path "application/merge-patch+json" patch

/-- The patch that writes finalizers. It carries the version of the snapshot, so that another write in
between is a conflict. -/
def finalizerPatch (snapshot : ImageBuild) (finalizers : List String) : Json :=
  .ofEntries [("metadata", .ofEntries [
    ("finalizers", .ofTexts finalizers),
    ("resourceVersion", match snapshot.metadata.resourceVersion with
      | some v => .str v
      | none => .null)])]

/-- The patch that writes a status. -/
def statusPatch (status : ImageBuildStatus) : Json := .ofEntries [("status", status.toJson)]

/-- The finalizers that a call writes, if it has any to write. -/
def finalizersToWrite? : Request → Option (List String)
  | .addFinalizer b f =>
    if f ∈ b.metadata.finalizerList then none else some (b.metadata.finalizerList ++ [f])
  | .removeFinalizer b f => some (b.metadata.finalizerList.filter (· ≠ f))
  | _ => none

/-- What a call does on the wire: it sends a request, is done without one, or has no request that
could be sent. -/
inductive Exchange
  | send (request : HttpRequest)
  | alreadyDone
  | unsendable

/-- Sends a request if there is one. -/
def Exchange.ofRequest? : Option HttpRequest → Exchange
  | some request => .send request
  | none => .unsendable

/-- What a call does on the wire, under the name of a field manager. Only a creation needs no name in
its path. -/
def exchange (manager : String) (r : Request) : Exchange :=
  let named := fun (request : Option HttpRequest) =>
    if r.key.name.isEmpty then Exchange.unsendable else .ofRequest? request
  match r with
  | .getImageBuild k => named (request? "GET" (imageBuildPath k) none none)
  | .getJob k => named (request? "GET" (jobPath k) none none)
  | .addFinalizer b _ | .removeFinalizer b _ =>
    match finalizersToWrite? r with
    | none => .alreadyDone
    | some fs =>
      named (mergePatch? manager (imageBuildPath (snapshotKey b)) (finalizerPatch b fs))
  | .patchStatus k status =>
    named (mergePatch? manager (imageBuildPath k ++ "/status") (statusPatch status))
  | .createJob ns job =>
    .ofRequest? (write? "POST" manager (jobsPath ns) "application/json" job.toJson)
  | .deleteJob k =>
    named (request? "DELETE" (Address.Target.withParameters (jobPath k) [])
      (some "application/json") (some (.ofEntries [("propagationPolicy", .str "Background")])))

/-- Sorts a response: an error when its status says so, else what its body holds. A body that holds no
error object is itself the message of the error. -/
def receive {α : Type} (read? : String → Option α) : Option HttpResponse → Except Failure α
  | none => .error .noAnswer
  | some response =>
    if 400 ≤ response.status ∧ response.status < 600 then
      match Body.error.read? response.body with
      | some s => .error (.status s)
      | none => .error (.status
          ⟨response.status, "Failed to parse error data", Text.quote response.body⟩)
    else match read? response.body with
      | some a => .ok a
      | none => .error .noAnswer

/-- An object, or nothing when the server says that it does not exist. -/
def orAbsent {α : Type} : Except Failure α → Except Failure (Option α)
  | .ok a => .ok (some a)
  | .error (.status s) => if s.reason = "NotFound" then .ok none else .error (.status s)
  | .error f => .error f

/-- Names the object of a failure. -/
def failedFor {α : Type} (what : String) : Except Failure α → Except ClusterError α
  | .ok a => .ok a
  | .error f => .error (.ofFailure f what)

/-- What a call answers, given the response to its request. Deleting a job that does not exist is no
error. -/
def answer (r : Request) (response : Option HttpResponse) : Answer r :=
  match r with
  | .getImageBuild k =>
    failedFor (imageBuildText k) (orAbsent (receive Body.imageBuild.read? response))
  | .getJob k => failedFor (jobText k) (orAbsent (receive Body.job.read? response))
  | .addFinalizer b _ | .removeFinalizer b _ =>
    (failedFor (imageBuildText (snapshotKey b)) (receive Body.imageBuild.read? response)).map
      fun _ => ()
  | .patchStatus k _ =>
    (failedFor (imageBuildText k) (receive Body.imageBuild.read? response)).map fun _ => ()
  | .createJob ns job =>
    (failedFor (jobText ⟨ns, job.metadata.displayName⟩) (receive Body.job.read? response)).map
      fun _ => ()
  | .deleteJob k =>
    match failedFor (jobText k) (receive Body.deletion? response) with
    | .error (.notFound _) => .ok ()
    | result => result

/-- The answer of a call that sends nothing because there is nothing to do. -/
def doneAnswer (r : Request) : Answer r :=
  match r with
  | .getImageBuild _ | .getJob _ => .ok none
  | .addFinalizer _ _ | .removeFinalizer _ _ | .patchStatus _ _ | .createJob _ _
  | .deleteJob _ => .ok ()

/-- Makes a call through a transport, which is asked at most once: the request that was sent, and the
answer. -/
def call (manager : String) (r : Request) (transport : HttpRequest → Option HttpResponse) :
    Option HttpRequest × Answer r :=
  match exchange manager r with
  | .send request => (some request, answer r (transport request))
  | .alreadyDone => (none, doneAnswer r)
  | .unsendable => (none, answer r none)

end ImageForge.Cluster.Http
