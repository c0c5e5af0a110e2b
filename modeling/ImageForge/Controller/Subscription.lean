import ImageForge.Cluster.Http
import ImageForge.Controller.BuilderJob
/-!
The requests that open the watches: each kind of object is listed once and then watched from there.
-/

namespace ImageForge.Controller

open Cluster.Http

/-- Seconds after which the server ends a watch. -/
def watchTimeout : Nat := 290

/-- The greatest number of objects in one page of a list. -/
def pageLimit : Nat := 500

/-- The label that the watched jobs carry. -/
def jobSelector : String := managedByLabel ++ "=" ++ managedBy

/-- The list and the watch of one kind of object, from the version at which it was listed. -/
def listAndWatch (path version : String) (selector : Option String) : List HttpRequest :=
  let select := (selector.map fun s => ("labelSelector", s)).toList
  let get := fun parameters =>
    request? "GET" (Address.Target.withParameters path parameters) none none
  [get (select ++ [("limit", toString pageLimit)]),
    get ([("allowWatchBookmarks", "true")] ++ select ++
      [("resourceVersion", version), ("timeoutSeconds", toString watchTimeout),
        ("watch", "true")])].filterMap id

/-- The requests that open all watches, of all namespaces or of one. -/
def watchRequests (ns : Option String) (version : String) : List HttpRequest :=
  listAndWatch (collectionPath ImageBuild.apiVersion ImageBuild.plural ns) version none ++
    listAndWatch (collectionPath Job.apiVersion Job.plural ns) version (some jobSelector)

/-- Whether the watches can be opened: what stands for a namespace may not fit into a path. -/
def canWatch (ns : Option String) : Bool := (watchRequests ns "").length = 4

end ImageForge.Controller
