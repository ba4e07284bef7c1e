/-!
# Moments

The order of what happens in one run of several tasks. Time is counted in milliseconds, and within
a millisecond one step is done after the other, as they come into a queue. A millisecond begins with
the steps that clocks set off, in the order in which these clocks were set. A step puts what it sets
off at the end of the queue; when the queue is empty, the millisecond is over.
-/

namespace Beacon

/-- A step in time, named by what led to it. -/
inductive Moment where
  /-- The beginning of a millisecond. -/
  | opening (ms : Nat)
  /-- What a clock sets off that another step has set, some milliseconds later. -/
  | alarm (set : Moment) (delay : Nat)
  /-- What another step sets off in a member of a call, by the number of the member. -/
  | step (cause : Moment) (index : Nat)
  /-- What comes into the queue after all that a step sets off in members: first what it sets off in
  the call that waits for its task, then what is set off from outside before the next step. -/
  | reply (cause : Moment) (index : Nat)
deriving DecidableEq, Repr

namespace Moment

/-- The millisecond. -/
def ms : Moment → Nat
  | opening ms => ms
  | alarm set delay => set.ms + delay
  | step cause _ => cause.ms
  | reply cause _ => cause.ms

/-- The part of the millisecond, by kinds of moments. -/
def part : Moment → Nat
  | opening _ => 0
  | alarm .. => 1
  | step .. => 2
  | reply .. => 2

/-- Whether a moment is earlier than another. Steps come in the order of those that set them off,
alarms of one millisecond in the order in which their clocks were set. -/
def isBefore : Moment → Moment → Bool
  | alarm a d, alarm b e => a.ms + d < b.ms + e || (a.ms + d = b.ms + e && a.isBefore b)
  | step a i, step b j => a.isBefore b || (a = b && i < j)
  | step a _, reply b _ => a.isBefore b || a = b
  | reply a _, step b _ => a.isBefore b
  | reply a i, reply b j => a.isBefore b || (a = b && i < j)
  | a, b => a.ms < b.ms || (a.ms = b.ms && a.part < b.part)

/-- The earlier one of two moments. -/
def earlier (a b : Moment) : Moment := if b.isBefore a then b else a

/-- The moment after a delay. The delay of zero takes no time at all. -/
def after (a : Moment) (delay : Nat) : Moment := if delay = 0 then a else alarm a delay

theorem ms_after (a : Moment) (delay : Nat) : (a.after delay).ms = a.ms + delay := by
  unfold after
  split <;> simp_all [ms]

theorem ms_le_of_isBefore {a b : Moment} (h : a.isBefore b = true) : a.ms ≤ b.ms := by
  fun_induction isBefore a b <;> grind [ms]

theorem isBefore_of_ms_lt {a b : Moment} (h : a.ms < b.ms) : a.isBefore b = true := by
  fun_induction isBefore a b <;> grind [ms]

theorem isBefore_irrefl (a : Moment) : a.isBefore a = false := by
  induction a <;> simp_all [isBefore]

theorem isBefore_trans {a b c : Moment} (h : a.isBefore b = true) (h' : b.isBefore c = true) :
    a.isBefore c = true := by
  induction a generalizing b c <;> cases b <;> cases c
  all_goals
    have le := ms_le_of_isBefore h
    have le' := ms_le_of_isBefore h'
    simp only [isBefore, ms, part, Bool.or_eq_true, Bool.and_eq_true, decide_eq_true_eq]
      at h h' le le' ⊢
    grind [isBefore_of_ms_lt]

end Moment

end Beacon
