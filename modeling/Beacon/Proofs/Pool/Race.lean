import Beacon.Pool.Collection
import Mathlib.Data.List.Perm.Basic

/-!
# Races

In a race all that counts of who takes part is the millisecond in which its task ends and how it
does, `Racer`. `Decides` says what a race comes to: the earliest value, or if there is none, that
there is no such thing, or a failure that holds the failures of all. What a failure holds are its
`Failure.leaves`, through all calls in which all have failed.

Racers may be in groups, and each group may be a racer in another race. A race of races comes to the
same as the race of all (`Decides.flatMap`), and if no two values come in the same millisecond, what
a race comes to is determined up to the order of failures (`Decides.agree`).
-/

namespace Beacon

/-! ### The leaves of a failure -/

namespace Failure

mutual

/-- The failures that a failure is made of, through the calls in which all have failed. -/
def leaves : Failure → List Failure
  | .aggregate _ failures => leavesOfAll failures
  | failure => [failure]

/-- The failures that failures of members are made of. -/
def leavesOfAll : List (String × Failure) → List Failure
  | [] => []
  | (_, failure) :: rest => failure.leaves ++ leavesOfAll rest

end

theorem leavesOfAll_eq (failures : List MemberFailure) :
    leavesOfAll failures = (failures.map Prod.snd).flatMap leaves := by
  induction failures with
  | nil => rfl
  | cons failure rest ih => rw [leavesOfAll, ih, List.map_cons, List.flatMap_cons]

/-- Whether a failure is that nobody is trusted with the operation. -/
def isUnsupported : Failure → Bool
  | .unsupported _ => true
  | _ => false

end Failure

variable {α : Type}

/-! ### Racers -/

/-- A member of a call, by the millisecond in which its task ends, and how it ends, if it does. -/
structure Racer (α : Type) where
  address : String
  finish? : Option (Nat × Ending α)

namespace Racer

/-- The value that the task ends with, and when. -/
def value? (racer : Racer α) : Option (Nat × α) :=
  match racer.finish? with
  | some (ms, .result (.ok (some value))) => some (ms, value)
  | _ => none

/-- Whether the task ends with there being no such thing. -/
def denies (racer : Racer α) : Bool :=
  match racer.finish? with
  | some (_, .result (.ok none)) => true
  | _ => false

/-- The failure that the task ends with. -/
def cause? (operation : String) (racer : Racer α) : Option Failure :=
  match racer.finish? with
  | some (_, .result (.error cause)) => some cause
  | some (_, .died) => some (.task operation racer.address "task aborted or panicked")
  | _ => none

/-- What this failure is made of. -/
def leaves (operation : String) (racer : Racer α) : List Failure :=
  ((racer.cause? operation).map Failure.leaves).getD []

theorem flatMap_leaves (operation : String) (racers : List (Racer α)) :
    racers.flatMap (leaves operation) =
      (racers.filterMap (cause? operation)).flatMap Failure.leaves := by
  induction racers with
  | nil => rfl
  | cons racer rest ih =>
    rw [List.flatMap_cons, ih, List.filterMap_cons, leaves]
    cases racer.cause? operation <;> rfl

end Racer

/-- Nobody in a race has a value or says that there is no such thing, and a failure holds the
failures of all. A racer that is configured `alone` fails as it is. -/
structure AllFail (operation : String) (alone : Prop) (racers : List (Racer α))
    (failure : Failure) : Prop where
  /-- Nobody has a value. -/
  no_value : ∀ racer ∈ racers, racer.value? = none
  /-- Nobody says that there is no such thing. -/
  undenied : ∀ racer ∈ racers, racer.denies = false
  /-- All failures are held. -/
  leaves_perm : failure.leaves.Perm (racers.flatMap (Racer.leaves operation))
  /-- A failure that is not wrapped is that of the only racer. -/
  bare : alone → ∃ racer, racers = [racer] ∧ racer.cause? operation = some failure
  /-- A failure that is wrapped is not that nobody is trusted with the operation. -/
  wrapped : ¬ alone → failure.isUnsupported = false

/-- What a race comes to, and in which millisecond if it is a value. -/
inductive Decides (operation : String) (alone : Prop) (racers : List (Racer α)) :
    Nat → Except Failure (Option α) → Prop where
  /-- There is a value, and none before it. -/
  | found {ms : Nat} {value : α} (wins : ∃ racer ∈ racers, racer.value? = some (ms, value))
    (first : ∀ racer ∈ racers, ∀ ms' value', racer.value? = some (ms', value') → ms ≤ ms') :
    Decides operation alone racers ms (.ok (some value))
  /-- There is no value, but somebody says that there is no such thing. -/
  | notFound {ms : Nat} (no_value : ∀ racer ∈ racers, racer.value? = none)
    (denied : ∃ racer ∈ racers, racer.denies = true) :
    Decides operation alone racers ms (.ok none)
  /-- There is nothing but failures. -/
  | failed {ms : Nat} {failure : Failure} (all : AllFail operation alone racers failure) :
    Decides operation alone racers ms (.error failure)

/-! ### Races of races -/

/-- A racer that ends with what the race of others comes to, when it does. -/
def Racer.IsRaceOf (racer : Racer α) (operation : String) (alone : Prop)
    (racers : List (Racer α)) : Prop :=
  ∃ ms result, racer.finish? = some (ms, .result result) ∧
    Decides operation alone racers ms result

namespace Racer.IsRaceOf

variable {lead : Racer α} {operation : String} {alone : Prop} {racers : List (Racer α)}

theorem exists_of_value (h : lead.IsRaceOf operation alone racers) {ms : Nat} {value : α}
    (hvalue : lead.value? = some (ms, value)) :
    ∃ racer ∈ racers, racer.value? = some (ms, value) := by
  obtain ⟨ms', result, hfinish, hrace⟩ := h
  rw [Racer.value?, hfinish] at hvalue
  cases hrace with
  | found wins first =>
    cases hvalue
    exact wins
  | notFound => cases hvalue
  | failed => cases hvalue

theorem exists_le_of_value (h : lead.IsRaceOf operation alone racers) {racer : Racer α}
    (hracer : racer ∈ racers) {ms : Nat} {value : α} (hvalue : racer.value? = some (ms, value)) :
    ∃ ms' value', lead.value? = some (ms', value') ∧ ms' ≤ ms := by
  obtain ⟨ms', result, hfinish, hrace⟩ := h
  cases hrace with
  | found wins first =>
    exact ⟨ms', _, by rw [Racer.value?, hfinish], first racer hracer ms value hvalue⟩
  | notFound no_value _ =>
    rw [no_value racer hracer] at hvalue
    cases hvalue
  | failed all =>
    rw [all.no_value racer hracer] at hvalue
    cases hvalue

theorem no_value (h : lead.IsRaceOf operation alone racers) (hnone : lead.value? = none) :
    ∀ racer ∈ racers, racer.value? = none := by
  intro racer hracer
  cases hvalue : racer.value? with
  | none => rfl
  | some found =>
    obtain ⟨ms', value', hlead, -⟩ := h.exists_le_of_value hracer hvalue
    rw [hnone] at hlead
    cases hlead

theorem exists_denies (h : lead.IsRaceOf operation alone racers) (hdenies : lead.denies = true) :
    ∃ racer ∈ racers, racer.denies = true := by
  obtain ⟨ms', result, hfinish, hrace⟩ := h
  rw [Racer.denies, hfinish] at hdenies
  cases hrace with
  | found => cases hdenies
  | notFound _ denied => exact denied
  | failed => cases hdenies

/-- If it ends with neither a value nor a denial, all have failed. -/
theorem exists_allFail (h : lead.IsRaceOf operation alone racers) (hnone : lead.value? = none)
    (hdenies : lead.denies = false) :
    ∃ failure, lead.cause? operation = some failure ∧
      AllFail operation alone racers failure := by
  obtain ⟨ms', result, hfinish, hrace⟩ := h
  rw [Racer.value?, hfinish] at hnone
  rw [Racer.denies, hfinish] at hdenies
  cases hrace with
  | found => cases hnone
  | notFound => cases hdenies
  | failed all => exact ⟨_, by rw [Racer.cause?, hfinish], all⟩

end Racer.IsRaceOf

section Groups

/-! Racers in groups: each group has a racer of its own, `lead`, in another race. -/

variable {γ : Type} {groups : List γ} {lead : γ → Racer α} {members : γ → List (Racer α)}
  {operation : String} {alone aloneInAll : Prop} {aloneIn : γ → Prop}
  (alone_iff : aloneInAll ↔ alone ∧ ∀ group ∈ groups, aloneIn group)

include alone_iff

/-- If all fail, and in each group all members fail, then all members of all groups fail. -/
theorem AllFail.flatMap {failure : Failure}
    (outer : AllFail operation alone (groups.map lead) failure)
    (each : ∀ group ∈ groups, ∃ cause, (lead group).cause? operation = some cause ∧
      AllFail operation (aloneIn group) (members group) cause) :
    AllFail operation aloneInAll (groups.flatMap members) failure := by
  -- if there is no group but one, the failure is that of the group
  have single (halone : alone) :
      ∃ group, groups = [group] ∧ AllFail operation (aloneIn group) (members group) failure := by
    obtain ⟨racer, hlead, hcause⟩ := outer.bare halone
    obtain ⟨group, hgroup, rfl⟩ := List.map_eq_singleton_iff.1 hlead
    obtain ⟨cause, hcause', all⟩ := each group (by simp [hgroup])
    rw [hcause] at hcause'
    cases hcause'
    exact ⟨group, hgroup, all⟩
  constructor
  · intro racer hracer
    obtain ⟨group, hgroup, hracer⟩ := List.mem_flatMap.1 hracer
    obtain ⟨cause, -, all⟩ := each group hgroup
    exact all.no_value racer hracer
  · intro racer hracer
    obtain ⟨group, hgroup, hracer⟩ := List.mem_flatMap.1 hracer
    obtain ⟨cause, -, all⟩ := each group hgroup
    exact all.undenied racer hracer
  · have hlead := outer.leaves_perm
    rw [List.flatMap_map] at hlead
    rw [List.flatMap_assoc]
    refine hlead.trans (List.Perm.flatMap_left groups fun group hgroup => ?_)
    obtain ⟨cause, hcause, all⟩ := each group hgroup
    simpa [Racer.leaves, hcause] using all.leaves_perm
  · intro hall
    obtain ⟨halone, hin⟩ := alone_iff.1 hall
    obtain ⟨group, hgroup, all⟩ := single halone
    obtain ⟨racer, hmembers, hracer⟩ := all.bare (hin group (by simp [hgroup]))
    exact ⟨racer, by simp [hgroup, hmembers], hracer⟩
  · intro hall
    by_cases halone : alone
    · obtain ⟨group, hgroup, all⟩ := single halone
      apply all.wrapped
      intro hin
      exact hall (alone_iff.2 ⟨halone, by simpa [hgroup] using hin⟩)
    · exact outer.wrapped halone

/-- Either the racer of a group ends with what the race of the group comes to; or it has no value,
and the race of these racers is over before any value comes in the group. Then this race comes to
the same as the race of all groups together. -/
theorem Decides.flatMap {ms : Nat} {result : Except Failure (Option α)}
    (outer : Decides operation alone (groups.map lead) ms result)
    (each : ∀ group ∈ groups,
      (lead group).IsRaceOf operation (aloneIn group) (members group) ∨
      ((lead group).value? = none ∧ (∃ value, result = .ok (some value)) ∧
        ∀ racer ∈ members group, ∀ ms' value', racer.value? = some (ms', value') → ms ≤ ms')) :
    Decides operation aloneInAll (groups.flatMap members) ms result := by
  -- without a value the races of all groups matter
  have races (hne : ∀ value, result ≠ .ok (some value)) : ∀ group ∈ groups,
      (lead group).IsRaceOf operation (aloneIn group) (members group) := by
    intro group hgroup
    rcases each group hgroup with hrace | ⟨-, ⟨value, hvalue⟩, -⟩
    · exact hrace
    · exact absurd hvalue (hne value)
  cases outer with
  | found wins first =>
    refine .found ?_ ?_
    · obtain ⟨_, hlead, hvalue⟩ := wins
      obtain ⟨group, hgroup, rfl⟩ := List.mem_map.1 hlead
      rcases each group hgroup with hrace | ⟨hnone, -, -⟩
      · obtain ⟨racer, hracer, hvalue⟩ := hrace.exists_of_value hvalue
        exact ⟨racer, List.mem_flatMap.2 ⟨group, hgroup, hracer⟩, hvalue⟩
      · rw [hvalue] at hnone
        cases hnone
    · intro racer hracer ms' value' hvalue'
      obtain ⟨group, hgroup, hracer⟩ := List.mem_flatMap.1 hracer
      rcases each group hgroup with hrace | ⟨-, -, hlater⟩
      · obtain ⟨ms'', value'', hlead, hle⟩ := hrace.exists_le_of_value hracer hvalue'
        exact Nat.le_trans (first _ (List.mem_map_of_mem hgroup) ms'' value'' hlead) hle
      · exact hlater racer hracer ms' value' hvalue'
  | notFound no_value denied =>
    have races := races nofun
    refine .notFound ?_ ?_
    · intro racer hracer
      obtain ⟨group, hgroup, hracer⟩ := List.mem_flatMap.1 hracer
      exact (races group hgroup).no_value (no_value _ (List.mem_map_of_mem hgroup)) racer hracer
    · obtain ⟨_, hlead, hdenies⟩ := denied
      obtain ⟨group, hgroup, rfl⟩ := List.mem_map.1 hlead
      obtain ⟨racer, hracer, hdenies⟩ := (races group hgroup).exists_denies hdenies
      exact ⟨racer, List.mem_flatMap.2 ⟨group, hgroup, hracer⟩, hdenies⟩
  | failed all =>
    refine .failed (all.flatMap alone_iff fun group hgroup => ?_)
    have hlead : lead group ∈ groups.map lead := List.mem_map_of_mem hgroup
    exact (races nofun group hgroup).exists_allFail (all.no_value _ hlead) (all.undenied _ hlead)

end Groups

/-! ### Agreement -/

/-- Two results are the same answer, or both that nobody is trusted with the operation, or other
failures with the same leaves. -/
def Agree : Except Failure (Option α) → Except Failure (Option α) → Prop
  | .ok answer, .ok answer' => answer = answer'
  | .error failure, .error failure' =>
    (∃ capability, failure = .unsupported capability ∧ failure' = .unsupported capability) ∨
      failure.isUnsupported = false ∧ failure'.isUnsupported = false ∧
        failure.leaves.Perm failure'.leaves
  | _, _ => False

/-- If no two values come in the same millisecond, a race does not come to different things. -/
theorem Decides.agree {operation : String} {alone : Prop} {racers : List (Racer α)} {ms ms' : Nat}
    {result result' : Except Failure (Option α)}
    (distinct : ∀ racer ∈ racers, ∀ racer' ∈ racers, ∀ ms value value',
      racer.value? = some (ms, value) → racer'.value? = some (ms, value') → value = value')
    (h : Decides operation alone racers ms result)
    (h' : Decides operation alone racers ms' result') : Agree result result' := by
  cases h with
  | found wins first =>
    obtain ⟨racer, hracer, hvalue⟩ := wins
    cases h' with
    | found wins' first' =>
      obtain ⟨racer', hracer', hvalue'⟩ := wins'
      have hms : ms = ms' :=
        Nat.le_antisymm (first racer' hracer' _ _ hvalue') (first' racer hracer _ _ hvalue)
      subst hms
      exact congrArg some (distinct racer hracer racer' hracer' _ _ _ hvalue hvalue')
    | notFound no_value' _ => rw [no_value' racer hracer] at hvalue; cases hvalue
    | failed all' => rw [all'.no_value racer hracer] at hvalue; cases hvalue
  | notFound no_value denied =>
    obtain ⟨racer, hracer, hdenies⟩ := denied
    cases h' with
    | found wins' _ =>
      obtain ⟨racer', hracer', hvalue'⟩ := wins'
      rw [no_value racer' hracer'] at hvalue'
      cases hvalue'
    | notFound => rfl
    | failed all' => rw [all'.undenied racer hracer] at hdenies; cases hdenies
  | @failed failure all =>
    cases h' with
    | found wins' _ =>
      obtain ⟨racer', hracer', hvalue'⟩ := wins'
      rw [all.no_value racer' hracer'] at hvalue'
      cases hvalue'
    | notFound _ denied' =>
      obtain ⟨racer', hracer', hdenies'⟩ := denied'
      rw [all.undenied racer' hracer'] at hdenies'
      cases hdenies'
    | failed all' =>
      by_cases halone : alone
      · -- the failure is that of the only racer, whatever it is
        obtain ⟨racer, hracers, hcause⟩ := all.bare halone
        obtain ⟨racer', hracers', hcause'⟩ := all'.bare halone
        cases hracers.symm.trans hracers'
        cases hcause.symm.trans hcause'
        cases hkind : failure.isUnsupported with
        | false => exact .inr ⟨hkind, hkind, .refl _⟩
        | true =>
          cases failure <;> cases hkind
          exact .inl ⟨_, rfl, rfl⟩
      · exact .inr ⟨all.wrapped halone, all'.wrapped halone,
          all.leaves_perm.trans all'.leaves_perm.symm⟩

end Beacon
