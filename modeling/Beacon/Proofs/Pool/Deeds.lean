import Beacon.Pool.Course
import Mathlib.Data.Fintype.Card

/-!
# What the members of a call do

`Deeds` says of each member of a call how its task ends by the deadline, if it does. The ends of
tasks may come in any order, so that a list of them is some permutation of `Deeds.arrivals`.

* `Deeds.mem_of_perm`, `Deeds.nodup_of_perm` and `Deeds.length_lt_iff` say what such a list holds.
* `Dispatch.deeds` reads the deeds off the courses of the members and the deadline of the call;
  `Dispatch.arrivals_perm` says that the call meets just these, each once.
-/

namespace Beacon

/-- How the task of each member of a call ends by the deadline, if it does. -/
abbrev Deeds (n : Nat) (α : Type) := Fin n → Option (Ending α)

namespace Deeds

variable {n : Nat} {α : Type} (deeds : Deeds n α)

/-- The ends of tasks, in the order of the members. -/
def arrivals : List (Arrival n α) :=
  (List.finRange n).filterMap fun member => (deeds member).map (Arrival.mk member)

/-- Whether some task goes on at the deadline. -/
def isPartial : Bool := (List.finRange n).any fun member => (deeds member).isNone

variable {deeds}

theorem mem_arrivals {a : Arrival n α} : a ∈ deeds.arrivals ↔ deeds a.member = some a.ending := by
  simp only [arrivals, List.mem_filterMap, List.mem_finRange, true_and, Option.map_eq_some_iff]
  constructor
  · rintro ⟨member, ending, h, rfl⟩
    exact h
  · intro h
    exact ⟨a.member, a.ending, h, rfl⟩

theorem map_member_arrivals :
    deeds.arrivals.map Arrival.member =
      (List.finRange n).filter fun member => (deeds member).isSome := by
  rw [arrivals, List.map_filterMap, ← List.filterMap_eq_filter]
  congr 1
  funext member
  cases h : deeds member <;> simp [Option.guard, h]

/-- No task ends twice. -/
theorem nodup_arrivals : (deeds.arrivals.map Arrival.member).Nodup := by
  rw [map_member_arrivals]
  exact (List.nodup_finRange n).filter _

variable {arrivals : List (Arrival n α)}

theorem nodup_of_perm (order : arrivals.Perm deeds.arrivals) :
    (arrivals.map Arrival.member).Nodup :=
  (order.map Arrival.member).nodup_iff.2 nodup_arrivals

theorem mem_of_perm (order : arrivals.Perm deeds.arrivals) {a : Arrival n α} :
    a ∈ arrivals ↔ deeds a.member = some a.ending :=
  order.mem_iff.trans mem_arrivals

theorem exists_ending_iff (order : arrivals.Perm deeds.arrivals) {ending : Ending α} :
    (∃ a ∈ arrivals, a.ending = ending) ↔ ∃ member, deeds member = some ending := by
  constructor
  · rintro ⟨a, ha, rfl⟩
    exact ⟨a.member, (mem_of_perm order).1 ha⟩
  · rintro ⟨member, h⟩
    exact ⟨⟨member, ending⟩, (mem_of_perm order).2 h, rfl⟩

theorem isPartial_eq_false :
    deeds.isPartial = false ↔ ∀ member, ∃ ending, deeds member = some ending := by
  simp [isPartial, Option.ne_none_iff_exists']

/-- Fewer ends than members: some task goes on. -/
theorem length_lt_iff (order : arrivals.Perm deeds.arrivals) :
    arrivals.length < n ↔ deeds.isPartial = true := by
  have hlen : arrivals.length =
      ((List.finRange n).filter fun member => (deeds member).isSome).length := by
    rw [order.length_eq, ← List.length_map Arrival.member, map_member_arrivals]
  -- members that have ended and members that go on are `n` together
  have hsplit := List.length_eq_length_filter_add (l := List.finRange n)
    fun member => (deeds member).isSome
  rw [List.length_finRange] at hsplit
  have hpos : deeds.isPartial = true ↔
      0 < ((List.finRange n).filter fun member => !(deeds member).isSome).length := by
    rw [List.length_pos_iff_exists_mem]
    simp [isPartial]
  rw [hpos]
  omega

end Deeds

/-- No more ends than members. -/
theorem Arrival.length_le {n : Nat} {α : Type} {arrivals : List (Arrival n α)}
    (once : (arrivals.map Arrival.member).Nodup) : arrivals.length ≤ n := by
  simpa using List.Nodup.length_le_card once

namespace Dispatch

variable {α : Type} (d : Dispatch α)

/-- Whether a moment comes before the deadline, if there is one. -/
def isInTime (moment : Moment) : Bool :=
  match d.deadline? with
  | some deadline => moment.isBefore deadline
  | none => true

/-- What the members of a call do by its deadline. -/
def deeds : Deeds d.size α := fun member =>
  ((d.team.get member).course.finish.filter fun (moment, _) => d.isInTime moment).map Prod.snd

theorem timedArrivals_eq :
    d.timedArrivals = d.ends.filter fun (moment, _) => d.isInTime moment := by
  unfold timedArrivals isInTime
  cases d.deadline? with
  | none => simp
  | some deadline => rfl

/-- The call meets what its members do by the deadline, each deed once. -/
theorem arrivals_perm : d.arrivals.Perm d.deeds.arrivals := by
  have hends := List.mergeSort_perm ((List.finRange d.size).filterMap fun member =>
    (d.team.get member).course.finish.map fun (moment, ending) =>
      (moment, (⟨member, ending⟩ : Arrival d.size α))) fun a b => !b.1.isBefore a.1
  rw [arrivals, timedArrivals_eq]
  refine ((hends.filter _).map Prod.snd).trans (List.Perm.of_eq ?_)
  rw [List.filter_filterMap, List.map_filterMap, Deeds.arrivals]
  congr 1
  funext member
  unfold deeds
  cases (d.team.get member).course.finish with
  | none => rfl
  | some finish => cases h : d.isInTime finish.1 <;> simp [Option.filter, h]

/-- A call to members whose tasks end after some milliseconds, if they do. -/
def timed (policy : Policy α) (settings : Settings)
    (members : List (String × Option (Nat × Ending α))) : Dispatch α where
  operation := "genesis"
  policy
  settings
  isAlone := members.length = 1
  isOutermost := true
  number := 0
  place := []
  start := .opening 0
  team := members.zipIdx.map fun ((address, finish?), index) =>
    { address
      course :=
        { finish := finish?.map fun (ms, ending) =>
            (((Moment.opening 0).step index).after ms, ending)
          log := [] } }

/-- A call to five members within 100 ms. The first one dies, and the others answer with numbers,
the last one after some milliseconds. -/
def quintet (policy : Policy Nat) (onDeadline : DeadlinePolicy) (last : Nat) : Dispatch Nat :=
  timed policy { timeout := ⟨100000000⟩, onDeadline }
    [("http://a", some (3, .died)),
      ("http://b", some (9, .result (.ok (some 7)))),
      ("http://c", some (5, .result (.ok (some 8)))),
      ("http://d", some (20, .result (.ok (some 7)))),
      ("http://e", some (last, .result (.ok (some 7))))]

end Dispatch

end Beacon
