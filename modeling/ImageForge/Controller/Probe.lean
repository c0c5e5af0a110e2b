import ImageForge.Address.Target
/-!
The probes of the controller: it is alive while it answers at all, and ready once it watches.
-/

namespace ImageForge.Controller.Probe

structure Response where
  status : Nat
  body : String
  deriving DecidableEq, Repr

/-- The answer to a request, of a controller that is ready or not. Other methods than reading are not
allowed, and a head is an answer without its body. -/
def respond (ready : Bool) (method target : String) : Response :=
  match Address.Target.parse? target with
  | none => ⟨400, ""⟩
  | some t =>
    let page : Option Response :=
      if t.path = "/healthz" then some ⟨200, "ok"⟩
      else if t.path = "/readyz" then some (if ready then ⟨200, "ok"⟩ else ⟨503, "not ready"⟩)
      else none
    match page with
    | none => ⟨404, ""⟩
    | some r =>
      if method = "GET" then r
      else if method = "HEAD" then { r with body := "" }
      else ⟨405, ""⟩

end ImageForge.Controller.Probe
