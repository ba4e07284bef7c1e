import Beacon.Pool.Collection
import Beacon.Pool.Moment

/-!
# Courses in time

A `Course` says when a call ends, how, and what is noted of it on the way. `dispatch` makes the
course of a call to several members out of the courses of the members. The call looks at the ends of
their tasks in the steps that these set off, and at its deadline for the last time; it ends when its
policy is settled, when all members have ended, or at the deadline. What the members would have done
after that is cut off, and so is what goes on below them, as soon as word of the end comes there.
-/

namespace Beacon

/-- What is noted of a call. -/
inductive Event where
  /-- A node is asked. -/
  | started
  /-- The task that asks a node ends, with a report or without. -/
  | ended (hasReport : Bool)
  | dispatched (number : Nat) (operation policy : String) (members : Nat)
  /-- A call looks at the ends of tasks. -/
  | looked
  /-- A call has its answer. -/
  | concluded
  /-- A task is stopped before its end. -/
  | stopped
  | warned (warning : Warning)

/-- Whether an event is the last one of a task. -/
def Event.isLast : Event → Bool
  | ended _ | concluded | stopped => true
  | _ => false

/-- Whether members are asked in an event. -/
def Event.isDispatch : Event → Bool
  | dispatched .. => true
  | _ => false

/-- An event with its moment, and its place: the numbers of the members on the way to it. -/
structure Note where
  moment : Moment
  place : List Nat
  event : Event

/-- What is noted, in the order of time. -/
abbrev Log := List Note

namespace Log

/-- How often a node was asked. -/
def starts (log : Log) (place : List Nat) : Nat :=
  log.countP fun note => note.place = place && match note.event with
    | .started => true
    | _ => false

/-- How many calls were dispatched. -/
def dispatches (log : Log) (place : List Nat) : Nat :=
  log.countP fun note => note.place = place && note.event.isDispatch

/-- The warnings. -/
def warnings (log : Log) : List Warning :=
  log.filterMap fun note => match note.event with
    | .warned warning => some warning
    | _ => none

/-- The log in the order of time, what is noted in the same step keeping its order. -/
def inOrder (log : Log) : Log := log.mergeSort fun a b => !b.moment.isBefore a.moment

/-- The first step at a place after a moment. -/
def next? (log : Log) (place : List Nat) (moment : Moment) : Option Moment :=
  (log.find? fun note => note.place = place && moment.isBefore note.moment).map Note.moment

/-- When a place below a call hears that the call has ended, from the way there, if the call tells
its members in the steps given. Whoever is told hears of it in that step, or in a step of its own if
that comes first, and then tells its own members. -/
def heardAt (log : Log) (place : List Nat) (finish : Moment) (tell : Nat → Moment) :
    List Nat → Moment
  | [] => finish
  | index :: rest =>
    let heard := match log.next? (place ++ [index]) finish with
      | some own => (tell index).earlier own
      | none => tell index
    log.heardAt (place ++ [index]) heard heard.step rest

/-- The log below a call at a place that ends: at each place, what comes before the call above it
hears of the end, and then that the task is stopped if it goes on. -/
def cut (log : Log) (place : List Nat) (finish : Moment) (tell : Nat → Moment) : Log :=
  let heard (below : List Nat) : Moment := log.heardAt place finish tell (below.drop place.length)
  let kept := log.filter fun note => !(heard note.place.dropLast).isBefore note.moment
  let isBegun (below : List Nat) : Bool := below.dropLast = place ||
    kept.any fun note => note.place = below.dropLast && note.event.isDispatch
  let isOver (below : List Nat) : Bool :=
    kept.any fun note => note.place = below && note.event.isLast
  let stopped := (log.map Note.place).eraseDups.filter fun below => isBegun below && !isOver below
  kept ++ stopped.map fun below => ⟨heard below, below, .stopped⟩

end Log

/-- What became of a node in a call. -/
inductive Status where
  | idle
  | answered
  /-- Its task ended without a report. -/
  | panicked
  /-- Its task was stopped. -/
  | aborted
deriving DecidableEq, Repr

/-- What became of the node at a place, from the log of a call. -/
def Log.status (log : Log) (place : List Nat) : Status :=
  match log.findSome? fun note => if note.place = place then
      match note.event with
      | .ended hasReport => some hasReport
      | _ => none
    else none with
  | some true => .answered
  | some false => .panicked
  | none => if log.starts place = 0 then .idle else .aborted

/-- When a call ends, how, and what is noted on the way. -/
structure Course (α : Type) where
  finish : Option (Moment × Ending α)
  log : Log

/-- A member of a call. -/
structure Member (α : Type) where
  address : String
  course : Course α

/-- How a call to several members is carried out. -/
structure Settings where
  timeout : Duration := .ofSeconds 120
  onDeadline : DeadlinePolicy := .fail

/-- The number of seconds that the clock can count. -/
def Settings.clockSeconds : Nat := 9223372036854775808

/-- The millisecond of the deadline of a call. It may take for ever if the clock does not reach that
far. -/
def Settings.deadline? (settings : Settings) (start : Nat) : Option Nat :=
  if settings.timeout.seconds < Settings.clockSeconds then
    some (start + settings.timeout.milliseconds)
  else none

/-- A call to several members. -/
structure Dispatch (α : Type) where
  operation : String
  policy : Policy α
  settings : Settings
  /-- Whether only one member is configured. -/
  isAlone : Bool
  /-- Whether no other call waits for it. -/
  isOutermost : Bool
  number : Nat
  place : List Nat
  start : Moment
  team : List (Member α)

namespace Dispatch

variable {α : Type} (d : Dispatch α)

/-- The number of members. -/
abbrev size : Nat := d.team.length

/-- The operation without its time. -/
def toOperation : Operation d.size α where
  name := d.operation
  address := fun member => (d.team.get member).address
  policy := d.policy
  onDeadline := d.settings.onDeadline
  isAlone := d.isAlone

/-- The ends of tasks, in the order of time. -/
def ends : List (Moment × Arrival d.size α) :=
  ((List.finRange d.size).filterMap fun member =>
    (d.team.get member).course.finish.map fun (moment, ending) =>
      (moment, ⟨member, ending⟩)).mergeSort fun a b => !b.1.isBefore a.1

/-- When a call that has looked before looks at the ends of tasks: in the step that the first of
them sets off, together with all that come before that step. -/
def looksAfter (look : Moment) : List Moment → List Moment
  | [] => []
  | moment :: rest =>
    let look := if moment.isBefore look then look else moment.reply 0
    look :: looksAfter look rest

/-- The deadline. The outermost call looks at the clock before anything else in a millisecond; a
call inside another one sets its clock whenever it has looked and goes on waiting. -/
def deadline? : Option Moment :=
  (d.settings.deadline? d.start.ms).map fun ms =>
    if d.isOutermost then .opening ms
    else
      let before := (d.ends.map Prod.fst).filter fun moment => moment.ms < ms
      let last := (looksAfter d.start before).getLast?.getD d.start
      last.after (ms - last.ms)

/-- The ends of tasks that come before the deadline, in the order of time. -/
def timedArrivals : List (Moment × Arrival d.size α) :=
  match d.deadline? with
  | some deadline => d.ends.filter fun (moment, _) => moment.isBefore deadline
  | none => d.ends

/-- The ends of tasks that come before the deadline. -/
def arrivals : List (Arrival d.size α) := d.timedArrivals.map Prod.snd

/-- What the members note. -/
def teamLog : Log := d.team.flatMap fun member => member.course.log

/-- After how many steps of a millisecond the outermost call looks even if more are left. -/
def round : Nat := 61

/-- The step after which the outermost call looks at what happens in a step: the last one of its
millisecond, or of its round if the millisecond has several. -/
def lookAfterRound (steps : List Moment) (moment : Moment) : Moment :=
  let steps := steps.filter fun step => step.ms = moment.ms
  let rounds := steps.idxOf moment / round + 1
  steps[min (rounds * round) steps.length - 1]?.getD moment

/-- When the call looks at each end of a task that comes before the deadline. -/
def looks : List Moment :=
  let moments := d.timedArrivals.map Prod.fst
  if d.isOutermost then
    let steps := (d.teamLog.inOrder.map Note.moment).eraseReps
    moments.map (lookAfterRound steps)
  else
    match d.deadline? with
    | some deadline => (looksAfter d.start moments).map deadline.earlier
    | none => looksAfter d.start moments

/-- The ends of tasks that the call takes notice of, each with the moment when it looks at it. -/
def timedReceived : List (Moment × Arrival d.size α) :=
  d.looks.zip (d.toOperation.received d.arrivals)

/-- When the call ends, if it does. -/
def finish? : Option Moment :=
  if d.toOperation.isLate d.arrivals then d.deadline?
  else
    match d.timedReceived.getLast? with
    | some (look, _) => some look
    | none => some d.start

/-- What the members note until word of the end of the call comes to their places. -/
def keptLog : Log :=
  match d.finish? with
  | some finish =>
    let tell index := if d.isOutermost then finish.reply (index + 1) else finish.step index
    d.teamLog.cut d.place finish tell
  | none => d.teamLog

/-- What the call notes itself when it looks. -/
def ownLog : Log :=
  d.timedReceived.flatMap (fun (look, arrival) =>
    ⟨look, d.place, .looked⟩ :: ((arrival.warning? d.toOperation.address).map fun warning =>
      ⟨look, d.place, .warned warning⟩).toList) ++
  (d.finish?.map fun finish => ⟨finish, d.place, .concluded⟩).toList

/-- The course of the call. -/
def course : Course α where
  finish := d.finish?.map fun moment => (moment, .result (d.toOperation.answer d.arrivals))
  log := Log.inOrder
    (⟨d.start, d.place, .dispatched d.number d.operation d.policy.name d.size⟩ ::
      d.keptLog ++ d.ownLog)

end Dispatch

end Beacon
