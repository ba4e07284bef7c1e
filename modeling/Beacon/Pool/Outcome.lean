import Beacon.Failure

/-!
# Outcomes

What the members of a call to several nodes report, and the reports of a call sorted by kind.
-/

namespace Beacon

/-- What a member reports. -/
inductive Outcome (α : Type) where
  | success (value : α)
  | notFound
  | failure (cause : Failure)

/-- The outcome of a result. -/
def Outcome.ofResult {α : Type} : Except Failure (Option α) → Outcome α
  | .ok (some value) => .success value
  | .ok none => .notFound
  | .error cause => .failure cause

/-- The report of a member, with the address of the member. -/
structure Report (α : Type) where
  endpoint : String
  outcome : Outcome α

namespace Report

variable {α : Type}

/-- The value, if there is one. -/
def value? (report : Report α) : Option α :=
  match report.outcome with
  | .success value => some value
  | _ => none

/-- Whether there is a value. -/
def isSuccess (report : Report α) : Bool :=
  match report.outcome with
  | .success _ => true
  | _ => false

/-- Whether there is no such thing. -/
def isNotFound (report : Report α) : Bool :=
  match report.outcome with
  | .notFound => true
  | _ => false

/-- The failure with the address of its member, if the member failed. -/
def failure? (report : Report α) : Option MemberFailure :=
  match report.outcome with
  | .failure cause => some (report.endpoint, cause)
  | _ => none

end Report

/-- Reports sorted by kind, in the order of their arrival. -/
structure Tally (α : Type) where
  /-- The values, each with the address of its member. -/
  successes : List (String × α)
  /-- The members for which there is no such thing. -/
  notFound : List String
  failures : List MemberFailure

namespace Tally

variable {α : Type}

/-- Sort reports by kind. -/
def ofReports (reports : List (Report α)) : Tally α where
  successes := reports.filterMap fun r => r.value?.map fun value => (r.endpoint, value)
  notFound := (reports.filter Report.isNotFound).map Report.endpoint
  failures := reports.filterMap Report.failure?

/-- The values. -/
def values (tally : Tally α) : List α := tally.successes.map Prod.snd

end Tally

end Beacon
