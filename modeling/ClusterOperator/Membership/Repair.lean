import ClusterOperator.Membership.Classification

/-!
# Repair of a split

A split is repaired by restarting the pods outside the largest class, which then join it. A repair
is put off while an upgrade holds the pods, and for a while after the last one.
-/

set_option autoImplicit false

namespace ClusterOperator

/-- What is done about a classification. A repair that is put off says why, for the event that tells
of it. -/
inductive RepairDecision
  | notNeeded
  /-- An upgrade holds the pods. -/
  | upgradeActive
  /-- The last repair is too recent. -/
  | coolingDown (remaining : Nat)
  | restart (pods : List String)
  deriving DecidableEq, Repr

/-- The seconds for which the last repair still rules out another. -/
def cooldownLeft? (membership : MembershipRecord) (now : Instant) (cooldown : Nat) : Option Nat :=
  (membership.lastRepairTime.bind Instant.parse?).bind fun last =>
    let since := Instant.elapsed last now
    if since < cooldown then some (cooldown - since) else none

/-- What is done about a classification. An upgrade goes before the cooldown: while it holds the
pods nothing else may restart them, however long ago the last repair was. -/
def planRepair (c : Classification) (membership : MembershipRecord)
    (upgrade : Option UpgradeRecord) (now : Instant) (cooldown : Nat) : RepairDecision :=
  if c.health ≠ .split then .notNeeded
  else if upgrade.any (·.phase.holdsPods) then .upgradeActive
  else
    match cooldownLeft? membership now cooldown with
    | some remaining => .coolingDown remaining
    -- A split has two classes, so the minority is empty only for a classification that no detection
    -- makes.
    | none => if c.minority.isEmpty then .notNeeded else .restart c.minority

end ClusterOperator
