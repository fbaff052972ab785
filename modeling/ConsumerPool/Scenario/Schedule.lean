import ConsumerPool.Scenario.Measure

/-! # The Scheduler of Scenarios

  Scenarios run on one thread. A worker runs until it has to wait or gives
  way. Those that can go on stand in a queue; those that have given way come
  back when it is empty; the others wait, in the order in which they began
  to. Events of the outside, and workers that fire the stop signal, wake
  some of them. A schedule settles after finitely many steps, when nobody can
  go on. -/

namespace ConsumerPool.Scenario

/-! ### Schedules -/

/-- A scripted pool with the order in which its workers run. -/
structure Schedule where
  scripted : Scripted
  running : Option Nat
  ready : List Nat
  /-- The workers that have given way. -/
  deferred : List Nat
  /-- The workers that wait, in the order in which they began to. -/
  waiting : List Nat

namespace Schedule

/-- The schedule of a pool that has just been started. -/
def ofScripted (scripted : Scripted) : Schedule :=
  { scripted
    running := none
    ready := List.range scripted.pool.workerCount
    deferred := []
    waiting := [] }

/-! ### Waking workers -/

/-- Puts workers at the end of the queue, those that are not in it. -/
def wake (s : Schedule) (ws : List Nat) : Schedule :=
  { s with ready := s.ready ++ ws.filter fun w => !s.ready.contains w }

def wakeReceivers (s : Schedule) : Schedule :=
  s.wake (s.waiting.filter s.scripted.isReceiving)

/-- Wakes the workers whose wait ends with the stop signal, if it has fired. -/
def wakeStopped (s : Schedule) : Schedule :=
  if s.scripted.pool.stop then s.wake (s.waiting.filter s.scripted.endsOnStop) else s

/-- The waiting workers whose deadline has been reached, by deadline and then
    in the order in which they began to wait. -/
def dueWorkers (s : Schedule) : List Nat :=
  let due := s.waiting.filterMap fun w =>
    match s.scripted.deadline? w with
    | some deadline => if deadline ≤ s.scripted.pool.clock then some (deadline, w) else none
    | none => none
  (due.mergeSort fun a b => a.1 ≤ b.1).map Prod.snd

/-- Wakes the workers whose deadline has been reached. -/
def wakeDue (s : Schedule) : Schedule := s.wake s.dueWorkers

/-- Lets the blocked call of a worker go on; should it block again, it does so
    as the last one. -/
def release (s : Schedule) (w : Nat) : Schedule :=
  { s with scripted := s.scripted.release w, waiting := s.waiting.erase w }

/-! ### Running workers -/

/-- Suspends the running worker: it waits, unless it has ended, and keeps its
    place if it was waiting already. -/
def suspend (s : Schedule) (w : Nat) : Schedule :=
  let ended :=
    match s.scripted.pool.workers[w]? with
    | some phase => phase.ended
    | none => true
  { s with
    running := none
    waiting :=
      if ended then s.waiting.erase w
      else if s.waiting.contains w then s.waiting
      else s.waiting ++ [w] }

/-- Goes on after a step of the running worker. -/
def advance (s : Schedule) (w : Nat) (scripted : Scripted) : Schedule :=
  let s' : Schedule :=
    if s.scripted.yieldsNext w then
      { s with scripted, running := none, deferred := s.deferred ++ [w],
               waiting := s.waiting.erase w }
    else { s with scripted, waiting := s.waiting.erase w }
  s'.wakeStopped

/-- The next thing that happens, if anything does. -/
def tick? (s : Schedule) : Option Schedule :=
  match s.running with
  | some w =>
    match s.scripted.step? w with
    | some scripted => some (s.advance w scripted)
    | none => some (s.suspend w)
  | none =>
    match s.ready, s.deferred with
    | w :: rest, _ => some { s with running := some w, ready := rest }
    | [], [] => none
    | [], w :: rest => some { s with ready := w :: rest, deferred := [] }

/-! ### Settling -/

/-- How far the queue is from being empty, as long as nobody takes a step. -/
def backlog (s : Schedule) : Nat :=
  3 * s.deferred.length + 2 * s.ready.length +
    match s.running with
    | some _ => 1
    | none => 0

/-- The work left in a schedule: that of the pool, then that of the queue. -/
def work (s : Schedule) : (Nat × Nat × Nat) × Nat := (s.scripted.work, s.backlog)

/-- The order in which the work of a schedule gets less. -/
def Fewer : (Nat × Nat × Nat) × Nat → (Nat × Nat × Nat) × Nat → Prop :=
  Prod.Lex Less (· < ·)

@[simp] theorem wake_scripted (s : Schedule) (ws : List Nat) :
    (s.wake ws).scripted = s.scripted := rfl

@[simp] theorem wakeStopped_scripted (s : Schedule) :
    s.wakeStopped.scripted = s.scripted := by
  unfold wakeStopped
  split <;> rfl

@[simp] theorem advance_scripted (s : Schedule) (w : Nat) (scripted : Scripted) :
    (s.advance w scripted).scripted = scripted := by
  simp only [advance, wakeStopped_scripted]
  split <;> rfl

/-- Everything that happens leaves a schedule less work. -/
theorem tick?_fewer {s s' : Schedule} (h : s.tick? = some s') : Fewer s'.work s.work := by
  unfold tick? at h
  split at h
  -- a worker runs: it takes a step, or it is suspended
  · next w hw =>
    split at h
    · next scripted hstep =>
      simp only [Option.some.injEq] at h
      subst h
      simp only [Fewer, work, advance_scripted]
      exact Prod.Lex.left _ _ (step?_less hstep)
    · simp only [Option.some.injEq] at h
      subst h
      refine Prod.Lex.right _ ?_
      simp only [suspend, backlog, hw]
      omega
  -- nobody runs: the next one is taken, or those that have given way are let in
  · next hnone =>
    split at h
    · next w rest hready =>
      simp only [Option.some.injEq] at h
      subst h
      refine Prod.Lex.right _ ?_
      simp only [backlog, hnone, hready, List.length_cons]
      omega
    · simp at h
    · next w rest hready hdeferred =>
      simp only [Option.some.injEq] at h
      subst h
      refine Prod.Lex.right _ ?_
      simp only [backlog, hnone, hready, hdeferred, List.length_cons, List.length_nil]
      omega

/-- Lets the workers run until nobody can go on. -/
def settle (s : Schedule) : Schedule :=
  match _h : s.tick? with
  | some s' => settle s'
  | none => s
termination_by s.work
decreasing_by exact tick?_fewer _h

/-- When a schedule has settled, nothing more happens. -/
theorem tick?_settle (s : Schedule) : s.settle.tick? = none := by
  unfold settle
  split
  · next s' h => exact tick?_settle s'
  · next h => exact h
termination_by s.work
decreasing_by exact tick?_fewer (by assumption)

end Schedule

end ConsumerPool.Scenario
