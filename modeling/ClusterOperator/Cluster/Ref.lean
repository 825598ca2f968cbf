/-!
# References to clusters
-/

set_option autoImplicit false

namespace ClusterOperator

/-- Which cluster is meant. -/
structure ClusterRef where
  «namespace» : String
  name : String
  deriving DecidableEq, Repr, Inhabited

def ClusterRef.path (r : ClusterRef) : String := r.namespace ++ "/" ++ r.name

end ClusterOperator
