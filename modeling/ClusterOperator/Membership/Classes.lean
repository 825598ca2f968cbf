import ClusterOperator.Pod
import ClusterOperator.SortedMap

/-!
# Classes of agreement

Every server that answers lists the servers it sees. Only servers that answered count, so a view is
first restricted to them. Two servers agree when their restricted views are the same *and* every
server with that view is in it: agreement is then mutual, and a server that is seen by two others
which do not see each other belongs to neither.

Classes are listed by size, largest first, and classes of one size by the first server in them.
-/

set_option autoImplicit false

namespace ClusterOperator

/-- The servers that each server sees, by the name of its pod. -/
abbrev Views := SortedMap (List String)

namespace Views

/-- Every view, restricted to the servers that have one. A server that did not answer may be seen by
some and not by others without that being a disagreement. -/
def restricted (views : Views) : List (String × List String) :=
  views.entries.map fun view => (view.1, views.keys.filter view.2.contains)

/-- The servers whose restricted view is a given one. -/
def holders (table : List (String × List String)) (peers : List String) : List String :=
  (table.filter (·.2 == peers)).map (·.1)

/-- The class of a server: those with its restricted view if all of them are in it, else the server
alone. The second case is that of a server which does not see one of those that report the same. -/
def classOf (table : List (String × List String)) (view : String × List String) : List String :=
  let agreeing := holders table view.2
  if agreeing.all view.2.contains then agreeing else [view.1]

end Views

/-! ## Order -/

/-- The key by which servers are ordered: the ordinal, the largest for a name without one, then the
name. By name alone, the server ten would come before the server two. -/
def orderKey (pod : String) : Int32 × String := ((ordinalOf? pod).getD 2147483647, pod)

/-- Whether a key comes before another or is the same. -/
def keyLe (a b : Int32 × String) : Bool := a.1 < b.1 || (a.1 == b.1 && a.2 ≤ b.2)

/-- A list of servers in order. -/
def sortPods (pods : List String) : List String :=
  pods.mergeSort fun a b => keyLe (orderKey a) (orderKey b)

def classKey (members : List String) : Int32 × String :=
  match members with
  | p :: _ => orderKey p
  | [] => (2147483647, "")

/-- Whether a class comes before another, or at its place. -/
def classLe (a b : List String) : Bool :=
  b.length < a.length || (a.length == b.length && keyLe (classKey a) (classKey b))

/-- The classes of agreement of a set of views. The views stand in the order of the names and both
sorts are by total orders, so the classes do not depend on the order in which the servers
answered. -/
def equivalenceClasses (views : Views) : List (List String) :=
  let table := views.restricted
  ((table.map (Views.classOf table)).eraseDups.map sortPods).mergeSort classLe

/-- If the classes are found in order, with their members in order, nothing is left to sort. -/
theorem equivalenceClasses_eq {views : Views} {classes : List (List String)}
    (hfound : (views.restricted.map (Views.classOf views.restricted)).eraseDups = classes)
    (hmembers : ∀ members ∈ classes,
      members.Pairwise fun a b => keyLe (orderKey a) (orderKey b) = true)
    (hclasses : classes.Pairwise fun a b => classLe a b = true) :
    equivalenceClasses views = classes := by
  have hsorted : classes.map sortPods = classes.map id :=
    List.map_congr_left fun members hmem => List.mergeSort_of_pairwise (hmembers members hmem)
  unfold equivalenceClasses
  simp only [hfound, hsorted, List.map_id]
  exact List.mergeSort_of_pairwise hclasses

end ClusterOperator
