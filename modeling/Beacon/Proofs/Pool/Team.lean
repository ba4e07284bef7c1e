import Beacon.Proofs.Pool.Errors

/-!
# Pools inside pools

A provider is a tree of pools over single nodes. What holds of every provider is proved by
induction on this tree (`Provider.induction`); the step is the call of one pool. Inside another pool
this is `Pool.dispatchAt`, whose team has the members that are trusted with the request, each with
its number as the last part of its place (`Provider.team_eq`).
-/

namespace Beacon

/-- What holds of all single nodes, and of every pool if it holds of its members, holds of every
provider. -/
@[elab_as_elim]
theorem Provider.induction {motive : Provider → Prop}
    (single : ∀ responder, motive (.single responder))
    (pool : ∀ settings members, (∀ member ∈ members, motive member) →
      motive (.pool settings members)) (provider : Provider) : motive provider :=
  Provider.rec (motive_1 := motive) (motive_2 := fun members => ∀ member ∈ members, motive member)
    single pool (fun _ h => nomatch h)
    (fun _ _ hhead htail => List.forall_mem_cons.2 ⟨hhead, htail⟩) provider

/-- The call of a pool inside another one. -/
def Pool.dispatchAt (pool : Pool) (earlier : Log) (request : Request) (place : List Nat)
    (start : Moment) : Dispatch request.Answer where
  operation := request.operation
  policy := .firstSuccess
  settings := pool.settings
  isAlone := pool.members.length = 1
  isOutermost := false
  number := earlier.dispatches place
  place
  start
  team := Provider.team earlier request pool.members place 0 start

namespace Provider

variable {earlier : Log} {request : Request} {members : List Provider} {place : List Nat}
  {start : Moment}

theorem course_pool {settings : Settings}
    (serves : (pool settings members).canServe request = true) :
    course earlier request (.pool settings members) place start =
      ((⟨settings, members⟩ : Pool).dispatchAt earlier request place start).course := by
  rw [canServe, capabilities] at serves
  rw [course, if_pos serves]
  rfl

theorem course_single {responder : Responder}
    (serves : (single responder).canServe request = true) :
    course earlier request (.single responder) place start =
      singleCourse responder request (earlier.starts place) place start := by
  rw [canServe, capabilities] at serves
  rw [course, if_pos serves]

/-- Who is not trusted with a request refuses it. -/
theorem course_of_not_canServe {provider : Provider} (h : provider.canServe request = false) :
    course earlier request provider place start = refusal request start := by
  cases provider with
  | single responder =>
    rw [canServe, capabilities] at h
    rw [course, h, if_neg Bool.false_ne_true]
  | pool settings members =>
    rw [canServe, capabilities] at h
    rw [course, h, if_neg Bool.false_ne_true]

end Provider

namespace Pool

variable {pool : Pool} {request : Request}

theorem makes_dispatchAt (serves : pool.toProvider.canServe request = true) (earlier : Log)
    (place : List Nat) (start : Moment) :
    pool.Makes request (pool.dispatchAt earlier request place start) :=
  ⟨serves, rfl, earlier, place, start, rfl⟩

theorem call_eq (serves : pool.toProvider.canServe request = true) (earlier : Log)
    (policy : Policy request.Answer) :
    pool.call earlier request policy = (pool.dispatch earlier request policy).course :=
  if_pos serves

theorem call_of_not_canServe (h : pool.toProvider.canServe request = false) (earlier : Log)
    (policy : Policy request.Answer) :
    pool.call earlier request policy = Provider.refusal request (.opening 0) := by
  rw [call, h, if_neg Bool.false_ne_true]

end Pool

end Beacon
