import Beacon.Pool.Policy

/-!
# Collecting reports

A call is dispatched to `n` members, each in a task of its own, and takes notice of the tasks that
end, one after the other, until its policy is settled, all tasks have ended, or the deadline has
passed. `Operation.collect` is the loop of the call and `Tray` what it keeps between two waits.
`Operation.ballot` is what the policy chooses from: the reports received, and one failure for every
member without a report if the policy is not settled by then.
-/

namespace Beacon

/-- What a call does when its deadline passes before its policy is settled. -/
inductive DeadlinePolicy where
  /-- Choose among all members; those without a report have failed. -/
  | fail
  /-- Choose among the members with a report. -/
  | bestEffort
deriving DecidableEq, Repr

/-- The name of a policy for deadlines. -/
def DeadlinePolicy.name : DeadlinePolicy → String
  | .fail => "Fail"
  | .bestEffort => "BestEffort"

/-- How the task of a member ends: with a result or without one. -/
inductive Ending (α : Type) where
  | result (result : Except Failure (Option α))
  | died

/-- The end of the task of one of `n` members. -/
structure Arrival (n : Nat) (α : Type) where
  member : Fin n
  ending : Ending α

/-- What is logged as a warning. -/
inductive Warning where
  | callFailed (endpoint : String) (cause : Failure)
  /-- The task of a member ended without a report. -/
  | taskLost

/-- The text of a warning. -/
def Warning.message : Warning → String
  | .callFailed .. => "Endpoint call failed"
  | .taskLost => "Endpoint task did not complete"

/-- The member that a warning names. -/
def Warning.endpoint? : Warning → Option String
  | .callFailed endpoint _ => some endpoint
  | .taskLost => none

namespace Arrival

variable {n : Nat} {α : Type}

/-- The report that comes with the end of a task, if one does. -/
def report? (address : Fin n → String) (a : Arrival n α) : Option (Report α) :=
  match a.ending with
  | .result result => some ⟨address a.member, .ofResult result⟩
  | .died => none

/-- The warning for the end of a task, if there is one. -/
def warning? (address : Fin n → String) (a : Arrival n α) : Option Warning :=
  match a.ending with
  | .result (.error cause) => some (.callFailed (address a.member) cause)
  | .result (.ok _) => none
  | .died => some .taskLost

end Arrival

/-- What a call has gathered between two of its waits. -/
structure Tray (n : Nat) (α : Type) where
  /-- The reports received, in the order of their arrival. -/
  reports : List (Report α)
  reported : Vector Bool n
  /-- How many tasks are known to have ended. -/
  ended : Nat
  waits : Nat
  /-- Whether the deadline has passed. -/
  isLate : Bool

namespace Tray

variable {n : Nat} {α : Type}

/-- Nothing at all, before the first wait. -/
def empty : Tray n α := ⟨[], .replicate n false, 0, 0, false⟩

/-- What a call has when it has waited for the end of a task. -/
def join (tray : Tray n α) (address : Fin n → String) (a : Arrival n α) : Tray n α :=
  let next := { tray with ended := tray.ended + 1, waits := tray.waits + 1 }
  match a.report? address with
  | some report =>
    { next with
      reports := tray.reports ++ [report]
      reported := tray.reported.set a.member true }
  | none => next

/-- What a call has when it has waited in vain: if a task goes on, it was for the deadline. -/
def giveUp (tray : Tray n α) : Tray n α :=
  { tray with waits := tray.waits + 1, isLate := tray.ended < n }

/-- Whether a member has reported. -/
def hasReported (tray : Tray n α) (member : Fin n) : Bool := tray.reported[member]

/-- The members without a report, in order. -/
def silent (tray : Tray n α) : List (Fin n) :=
  (List.finRange n).filter fun member => !tray.hasReported member

end Tray

/-- An operation that is dispatched to `n` members. -/
structure Operation (n : Nat) (α : Type) where
  name : String
  address : Fin n → String
  policy : Policy α
  onDeadline : DeadlinePolicy
  /-- Whether there are no members besides the one it is dispatched to. -/
  isAlone : Bool

namespace Operation

variable {n : Nat} {α : Type} (op : Operation n α)

/-- The loop of a call, over the ends of tasks that come before its deadline: unless its policy is
settled, it waits. -/
def collect (tray : Tray n α) : List (Arrival n α) → Tray n α
  | [] => if op.policy.isSettled tray.reports n then tray else tray.giveUp
  | a :: rest =>
    if op.policy.isSettled tray.reports n then tray else collect (tray.join op.address a) rest

/-- What the call has gathered when its loop is over. -/
def tray (arrivals : List (Arrival n α)) : Tray n α := op.collect .empty arrivals

/-- The ends of tasks that the call takes notice of, of those that come before the deadline. -/
def received (arrivals : List (Arrival n α)) : List (Arrival n α) :=
  arrivals.take (op.tray arrivals).ended

/-- Whether the deadline passes: not if the policy is settled, nor if all tasks have ended. -/
def isLate (arrivals : List (Arrival n α)) : Bool := (op.tray arrivals).isLate

/-- The failure of a member without a report. -/
def absence (late : Bool) (member : Fin n) : Failure :=
  if late then .deadline op.name (op.address member)
  else .task op.name (op.address member) "task aborted or panicked"

/-- What the policy chooses from. -/
def ballot (arrivals : List (Arrival n α)) : List (Report α) :=
  let tray := op.tray arrivals
  tray.reports ++
    if op.policy.isSettled tray.reports n then []
    else tray.silent.map fun member =>
      ⟨op.address member, .failure (op.absence tray.isLate member)⟩

/-- The number of members that the choice is based on. -/
def quorum (arrivals : List (Arrival n α)) : Nat :=
  let tray := op.tray arrivals
  if tray.isLate = true ∧ op.onDeadline = .bestEffort then tray.reports.length else n

/-- The answer that a choice gives. A failure of the only member is given as it is. -/
def conclude : Selection α → Except Failure (Option α)
  | .found value => .ok (some value)
  | .notFound => .ok none
  | .failed failures =>
    match op.isAlone, failures with
    | true, [(_, cause)] => .error cause
    | _, _ => .error (.aggregate op.name failures)
  | .inconclusive reason failures => .error (.inconclusive op.name reason failures)

/-- The answer of the call, from the ends of tasks that come before the deadline. -/
def answer (arrivals : List (Arrival n α)) : Except Failure (Option α) :=
  op.conclude (op.policy.select (op.ballot arrivals) (op.quorum arrivals))

/-- What the call logs as warnings. -/
def warnings (arrivals : List (Arrival n α)) : List Warning :=
  (op.received arrivals).filterMap (Arrival.warning? op.address)

end Operation

end Beacon
