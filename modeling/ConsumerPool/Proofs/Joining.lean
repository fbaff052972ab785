import ConsumerPool.Pool.Join
import ConsumerPool.Proofs.Ending
import Mathlib.Data.List.TakeWhile

/-! # What Waiting Comes To

  Waiting for a pool is over exactly when every worker has ended, and tells of
  the lowest-numbered worker that ended by a panic, whatever the order in time.
  A waiter goes through the workers one after the other and looks at them
  whenever it likes; as workers that have ended stay as they are, it finds what
  waiting from the start would find. -/

namespace ConsumerPool

/-! ### Waiting in order -/

namespace Phase

/-- The error told about a worker that has ended by a panic. -/
def panic? : Phase → Option PoolError
  | .crashed p => some (panicError p)
  | _ => none

@[simp] theorem ended_stopped : Phase.stopped.ended = true := rfl

@[simp] theorem ended_crashed (p : Payload) : (Phase.crashed p).ended = true := rfl

@[simp] theorem panic?_stopped : Phase.stopped.panic? = none := rfl

@[simp] theorem panic?_crashed (p : Payload) :
    (Phase.crashed p).panic? = some (panicError p) := rfl

end Phase

/-- What is told when all workers have ended, with the first error found. -/
def JoinStatus.ofFirst : Option PoolError → JoinStatus
  | some e => .failed e
  | none => .ok

/-- Waiting goes on while some worker is live, and tells of the first panic in order. -/
theorem await_eq (first : Option PoolError) (workers : List Phase) :
    await first workers =
      if workers.all Phase.ended then .ofFirst (first.or (workers.findSome? Phase.panic?))
      else .pending := by
  induction workers generalizing first with
  | nil => cases first <;> rfl
  | cons phase rest ih =>
    cases phase with
    | stopped => simp [await, ih, List.findSome?_cons]
    | crashed p =>
      -- an error found before this worker stays the first one
      cases first <;> simp [await, ih, List.findSome?_cons]
    | _ => simp [await, Phase.ended]

/-! ### A waiter -/

/-- Somebody who waits for workers, one after the other. -/
structure Waiter where
  /-- How many workers it is through with. -/
  passed : Nat
  /-- The error of the first one of these that ended by a panic. -/
  first : Option PoolError

namespace Waiter

/-- A waiter that has not looked at any worker. -/
def fresh : Waiter := { passed := 0, first := none }

/-- Goes on through workers that have ended, up to the first one that has not. -/
def pass (waiter : Waiter) : List Phase → Waiter
  | .stopped :: rest => pass { waiter with passed := waiter.passed + 1 } rest
  | .crashed p :: rest =>
      pass { passed := waiter.passed + 1, first := waiter.first.or (some (panicError p)) } rest
  | _ => waiter

/-- Looks at the workers, from the one on that it waits for. -/
def look (waiter : Waiter) (workers : List Phase) : Waiter :=
  waiter.pass (workers.drop waiter.passed)

/-- A waiter passes the ended workers in front and keeps the first error among them. -/
theorem pass_eq (waiter : Waiter) (workers : List Phase) :
    waiter.pass workers =
      { passed := waiter.passed + (workers.takeWhile Phase.ended).length
        first := waiter.first.or ((workers.takeWhile Phase.ended).findSome? Phase.panic?) } := by
  induction workers generalizing waiter with
  | nil => simp [pass]
  | cons phase rest ih =>
    cases phase with
    | stopped =>
      simp only [pass, ih, List.takeWhile_cons, Phase.ended_stopped, if_true, List.length_cons,
        List.findSome?_cons, Phase.panic?_stopped]
      congr 1
      omega
    | crashed p =>
      simp only [pass, ih, List.takeWhile_cons, Phase.ended_crashed, if_true, List.length_cons,
        List.findSome?_cons, Phase.panic?_crashed, Option.or_assoc, Option.some_or]
      congr 1
      omega
    -- a live worker is where the waiter stops
    | _ => simp [pass, Phase.ended]

/-- A waiter that is through with the first workers: all of them have ended, and it has the
    first error among them. -/
structure Through (waiter : Waiter) (workers : List Phase) : Prop where
  passed_le : waiter.passed ≤ workers.length
  ended : ∀ phase ∈ workers.take waiter.passed, phase.ended = true
  first_eq : waiter.first = (workers.take waiter.passed).findSome? Phase.panic?

variable {waiter : Waiter} {workers : List Phase}

theorem Through.look (h : Through waiter workers) : Through (waiter.look workers) workers := by
  obtain ⟨hle, hended, hfirst⟩ := h
  -- the workers passed by now are those passed before and the ended ones behind them
  have hfront : workers.take (waiter.look workers).passed =
      workers.take waiter.passed ++ (workers.drop waiter.passed).takeWhile Phase.ended := by
    rw [Waiter.look, pass_eq, List.take_add]
    congr 1
    exact (List.prefix_iff_eq_take.mp (List.takeWhile_prefix _)).symm
  constructor
  · have hlen := (List.takeWhile_prefix (l := workers.drop waiter.passed) Phase.ended).length_le
    rw [List.length_drop] at hlen
    simp only [Waiter.look, pass_eq]
    omega
  · intro phase hmem
    rw [hfront, List.mem_append] at hmem
    rcases hmem with hmem | hmem
    · exact hended phase hmem
    · exact List.mem_takeWhile_imp hmem
  · rw [hfront, List.findSome?_append, ← hfirst, Waiter.look, pass_eq]

end Waiter

namespace Pool

variable {w : Nat}

/-! ### Workers that end while somebody waits -/

theorem isFinished_iff (s : Pool) : s.isFinished = true ↔ ∀ w, ¬ s.IsLive w := by
  rw [isFinished, List.all_eq_true]
  constructor
  · rintro hall w ⟨phase, hw, hlive⟩
    rw [hall phase (List.mem_of_getElem? hw)] at hlive
    cases hlive
  · intro hnone phase hmem
    obtain ⟨w, hw⟩ := List.mem_iff_getElem?.mp hmem
    by_contra hlive
    exact hnone w ⟨phase, hw, by simpa using hlive⟩

theorem hasEnded_of_finished {s : Pool} (h : s.isFinished = true)
    (hlt : w < s.workers.length) : s.HasEnded w := by
  rcases (s.isLive_or_hasEnded_iff w).mpr hlt with hlive | hended
  · exact absurd hlive ((isFinished_iff s).mp h w)
  · exact hended

theorem workers_of_finished {s : Pool} (h : s.isFinished = true) (labels : List Label) :
    (s.run labels).workers = s.workers := by
  apply List.ext_getElem?
  intro w
  by_cases hlt : w < s.workers.length
  · exact ((hasEnded_of_finished h hlt).run_keeps labels).1
  · rw [List.getElem?_eq_none (by rw [length_workers_run]; omega),
      List.getElem?_eq_none (by omega)]

/-- Waiting is over when the pool has finished, and tells of the first panic in order. -/
theorem joinStatus_eq (s : Pool) : s.joinStatus =
    if s.isFinished then .ofFirst (s.workers.findSome? Phase.panic?) else .pending := by
  rw [joinStatus, await_eq, Option.none_or]
  rfl

end Pool

end ConsumerPool
