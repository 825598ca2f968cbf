import ClusterOperator.Metrics.Exposition

/-!
# Health

What the operator answers when it is asked whether it lives, whether it is ready, and what it
counts. It is ready while it leads; it lives as long as it answers.
-/

set_option autoImplicit false

namespace ClusterOperator

/-- What the operator tells about itself. -/
structure Health where
  ready : Bool := false
  metrics : Metrics := {}
  /-- When a pass last succeeded, in seconds since 1970. -/
  lastReconcile : Nat := 0

/-- An answer to a request. -/
structure HealthResponse where
  status : Nat
  contentType : Option String
  body : String
  deriving DecidableEq, Repr

namespace HealthResponse

def plain (status : Nat) (body : String) : HealthResponse :=
  ⟨status, some "text/plain; charset=utf-8", body⟩

/-- An answer without a body. -/
def bare (status : Nat) : HealthResponse := ⟨status, none, ""⟩

end HealthResponse

namespace Health

/-- The path of what a request asks for; a query after it makes no difference. -/
def pathOf (target : String) : String :=
  String.ofList (target.toList.takeWhile fun c => c != '?' && c != '#')

def page? (h : Health) (path : String) : Option HealthResponse :=
  if path = "/healthz" then some (.plain 200 "ok")
  else if path = "/readyz" then
    some (if h.ready then .plain 200 "ready" else .plain 503 "not ready")
  else if path = "/metrics" then
    some ⟨200, some "text/plain; version=0.0.4; charset=utf-8", h.metrics.toText⟩
  else none

/-- The answer to a request. Pages are only read; a request for the head of a page gets no body. -/
def respond (h : Health) (method target : String) : HealthResponse :=
  match h.page? (pathOf target) with
  | none => .bare 404
  | some page =>
    if method = "GET" then page
    else if method = "HEAD" then { page with body := "" }
    else .bare 405

end Health

end ClusterOperator
