import Beacon.Pool.Outcome

/-!
# Policies

A policy chooses the answer of a call to several nodes from their reports, and says when the reports
are enough. `Policy.firstSuccess` takes the first value. `Policy.majority` takes what more than half
of the members report.
-/

namespace Beacon

/-- What a policy chooses. -/
inductive Selection (α : Type) where
  | found (value : α)
  | notFound
  /-- Nothing: all that there is are failures. -/
  | failed (failures : List MemberFailure)
  | inconclusive (reason : String) (failures : List MemberFailure)

/-- A way to choose the answer of a call. -/
structure Policy (α : Type) where
  name : String
  /-- Whether the reports of some of `dispatched` members are enough. -/
  isSettled : (reports : List (Report α)) → (dispatched : Nat) → Bool
  /-- The choice among reports, as the answer of `quorum` members. -/
  select : (reports : List (Report α)) → (quorum : Nat) → Selection α

namespace Policy

/-- The first value counts; if there is none, that there is no such thing. -/
def firstSuccess {α : Type} : Policy α where
  name := "first-success"
  isSettled reports dispatched := dispatched ≤ reports.length || reports.any Report.isSuccess
  select reports _ :=
    let tally := Tally.ofReports reports
    match tally.values with
    | value :: _ => .found value
    | [] => if tally.notFound.isEmpty then .failed tally.failures else .notFound

/-- The votes that make a majority of a quorum. -/
def threshold (quorum : Nat) : Nat := quorum / 2 + 1

/-- More than half is enough, and nothing less. -/
theorem threshold_le_iff (quorum votes : Nat) : threshold quorum ≤ votes ↔ quorum < 2 * votes := by
  unfold threshold
  omega

/-- A value with its place in a list and how many values there are equal to it. -/
structure Leader (α : Type) where
  index : Nat
  value : α
  votes : Nat

variable {α : Type} [BEq α]

/-- The better of two values: the one with more votes, or else the earlier one. -/
def Leader.better (best : Option (Leader α)) (next : Leader α) : Option (Leader α) :=
  match best with
  | some leader => if next.votes ≤ leader.votes then some leader else some next
  | none => some next

/-- The values of a list, each with its place and its votes. -/
def candidates (values : List α) : List (Leader α) :=
  values.zipIdx.map fun (value, index) => ⟨index, value, values.count value⟩

/-- The value with the most votes, the earliest of them if there are several. -/
def leading (values : List α) : Option (Leader α) := (candidates values).foldl Leader.better none

/-- The most votes for any value. -/
def mostVotes (values : List α) : Nat :=
  match leading values with
  | some leader => leader.votes
  | none => 0

/-- Why no answer has a majority. -/
def noMajority (quorum best notFound : Nat) : String :=
  s!"no answer reached {threshold quorum} of {quorum} votes " ++
    s!"(best answer {best}, not found {notFound})"

/-- The choice when no value has a majority. -/
def selectAbsent (tally : Tally α) (quorum : Nat) : Selection α :=
  if threshold quorum ≤ tally.notFound.length then .notFound
  else if tally.successes.isEmpty && tally.notFound.isEmpty then .failed tally.failures
  else
    .inconclusive (noMajority quorum (mostVotes tally.values) tally.notFound.length) tally.failures

/-- The value counts that more than half of the members report; or that there is no such thing, if
more than half report that. -/
def majority : Policy α where
  name := "majority"
  isSettled reports dispatched :=
    dispatched ≤ reports.length ||
      threshold dispatched ≤ (reports.filter Report.isNotFound).length ||
      threshold dispatched ≤ mostVotes (reports.filterMap Report.value?)
  select reports quorum :=
    let tally := Tally.ofReports reports
    match leading tally.values with
    | some leader =>
      if threshold quorum ≤ leader.votes then .found leader.value else selectAbsent tally quorum
    | none => selectAbsent tally quorum

end Policy

/-- The name of a policy. -/
inductive Choice where
  | firstSuccess
  /-- What more than half of the members report. -/
  | majority
deriving DecidableEq, Repr

/-- The policy with a name. -/
def Choice.policy {α : Type} [BEq α] : Choice → Policy α
  | .firstSuccess => .firstSuccess
  | .majority => .majority

end Beacon
