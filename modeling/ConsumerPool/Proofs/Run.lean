import ConsumerPool.Pool.Start
import ConsumerPool.Pool.Step

/-! # Runs of a Pool

  A start may leave a pool that runs, whether its owner gets the handle or
  not. A run goes on from there by any list of labels. The record of the run
  mixes the events of all workers; `acts` picks those of one worker, and the
  selections below pick what an act is about. -/

namespace ConsumerPool

/-! ### Pools that run -/

/-- The pool that runs after a start, also where nobody has its handle. -/
def Start.running? : Start → Option Pool
  | .refused _ => none
  | .panicked _ orphans => orphans
  | .started pool => some pool

/-- Two workers over a given client, and room for one unread error. -/
def PoolParams.pair : PoolParams :=
  { queue := { url := "q" }, clientGiven := true, workerCount := 2, errorCapacity := 1 }

namespace Pool

/-- A pool as a start leaves it, before any worker has acted. -/
structure Launched (params : PoolParams) (around : Surroundings) (s : Pool) : Prop where
  params_eq : s.params = params
  refusal_eq : params.refusal? = none
  stop_eq : s.stop = around.stop
  processTransform_eq : s.processTransform = around.processTransform
  queue_eq : s.queue = around.queue
  workers_eq : s.workers = List.replicate params.workerCount .spawned
  senders_eq : s.senders = params.workerCount
  changed_eq : s.changed = []
  channel_eq : s.channel = .ofCapacity params.errorCapacity ∨
    s.channel = (ErrorChannel.ofCapacity params.errorCapacity).drop
  record_eq : s.record =
    [⟨around.clock, none, .logged (.poolStarted params.workerCount params.queue.url)⟩]

/-- Every pool that runs after a start is a launched one. -/
theorem launched_of_running {params : PoolParams} {around : Surroundings} {s : Pool}
    (h : (start params around).running? = some s) : Launched params around s := by
  unfold start at h
  split at h
  · simp [Start.running?] at h
  · next hr =>
    split at h
    · simp [Start.running?] at h
    · -- the workers exist by now; the first line of the log is all that is left
      split at h
      · next s' heq =>
        simp only [write, note, spawned, Prod.mk.injEq] at heq
        obtain ⟨rfl, -⟩ := heq
        simp only [Start.running?, Option.some.injEq] at h
        subst h
        exact ⟨rfl, hr, rfl, rfl, rfl, rfl, rfl, rfl, .inl rfl, rfl⟩
      · -- the logger panics on it: nobody has the reader's end
        next s' payload heq =>
        simp only [write, note, spawned, Prod.mk.injEq] at heq
        obtain ⟨rfl, -⟩ := heq
        simp only [Start.running?, Option.some.injEq] at h
        subst h
        exact ⟨rfl, hr, rfl, rfl, rfl, rfl, rfl, rfl, .inr rfl, rfl⟩

/-- A start with a logger that does not panic leaves the pool it has made, with one line
    written. -/
theorem running_of_steady {params : PoolParams} {around : Surroundings} {s : Pool}
    (h : (start params around).running? = some s) (hlog : params.loggerInUse.Steady) :
    s = ((spawned params around).write none
      (.poolStarted params.workerCount params.queue.url)).1.dropSender := by
  unfold start at h
  split at h
  · simp [Start.running?] at h
  · split at h
    · simp [Start.running?] at h
    · split at h
      · next s' heq =>
        simp only [Start.running?, Option.some.injEq] at h
        rw [heq, h]
      · next s' payload heq =>
        -- the logger takes the first line too
        have hpanic : (spawned params around).params.loggerInUse.panics 0
            (.poolStarted params.workerCount params.queue.url) = some payload :=
          congrArg Prod.snd heq
        cases hpanic.symm.trans (hlog _ _)

theorem Launched.length_workers {params : PoolParams} {around : Surroundings} {s : Pool}
    (h : Launched params around s) : s.workers.length = params.workerCount := by
  rw [h.workers_eq, List.length_replicate]

theorem Launched.phase {params : PoolParams} {around : Surroundings} {s : Pool}
    (h : Launched params around s) {w : Nat} {phase : Phase}
    (hw : s.workers[w]? = some phase) : phase = .spawned := by
  rw [h.workers_eq, List.getElem?_replicate] at hw
  split at hw
  · exact (Option.some.inj hw).symm
  · simp at hw

/-! ### A pool of two workers -/

/-- The pool of two workers that a start over these responses leaves. -/
def pair (queue : List Response) : Pool :=
  { spawned .pair { queue } with
    lines := 1
    senders := 2
    record := [⟨0, none, .logged (.poolStarted 2 "q")⟩] }

theorem pair_running (queue : List Response) :
    (start .pair { queue }).running? = some (pair queue) := rfl

/-! ### Going on -/

@[simp] theorem run_nil (s : Pool) : s.run [] = s := rfl

@[simp] theorem run_cons (s : Pool) (l : Label) (ls : List Label) :
    s.run (l :: ls) = (s.step l).run ls := rfl

theorem run_append (s : Pool) (ls ms : List Label) :
    s.run (ls ++ ms) = (s.run ls).run ms := List.foldl_append

/-- What each label of a run keeps, the run keeps. -/
theorem run_keeps {I : Pool → Prop} {labels : List Label}
    (hstep : ∀ l ∈ labels, ∀ t, I t → I (t.step l)) {s : Pool} (h₀ : I s) :
    I (s.run labels) := by
  induction labels generalizing s with
  | nil => exact h₀
  | cons l ls ih =>
    have hfirst : I (s.step l) := hstep l List.mem_cons_self s h₀
    exact ih (fun l' hl' => hstep l' (List.mem_cons_of_mem l hl')) hfirst

/-- What holds at the start and is kept by every step holds along a run. -/
theorem run_invariant {I : Pool → Prop} {s : Pool} (h₀ : I s)
    (hstep : ∀ t l, I t → I (t.step l)) (labels : List Label) : I (s.run labels) :=
  run_keeps (fun l _ t => hstep t l) h₀

end Pool

/-! ### The acts of one worker -/

/-- What a worker did, if an event is about that worker. -/
def Event.actOf? (w : Nat) (event : Event) : Option Act :=
  if event.worker = some w then some event.act else none

/-- What a worker has done, in order. -/
def Pool.acts (s : Pool) (w : Nat) : List Act := s.record.filterMap (Event.actOf? w)

theorem Pool.Launched.acts_eq_nil {params : PoolParams} {around : Surroundings} {s : Pool}
    (h : Launched params around s) (w : Nat) : s.acts w = [] := by
  simp [acts, h.record_eq, Event.actOf?]

/-- The acts up to the next receive. -/
def untilReceive (acts : List Act) : List Act := acts.takeWhile fun a => a ≠ .receiveBegun

@[simp] theorem untilReceive_nil : untilReceive [] = [] := rfl

@[simp] theorem untilReceive_receiveBegun (acts : List Act) :
    untilReceive (.receiveBegun :: acts) = [] := by
  simp [untilReceive]

theorem untilReceive_cons {a : Act} (h : a ≠ .receiveBegun) (acts : List Act) :
    untilReceive (a :: acts) = a :: untilReceive acts := by
  simp [untilReceive, h]

/-- What holds of an act and of those after it up to the next receive. -/
theorem forall_untilReceive_cons {P : Act → Prop} {a : Act} {acts : List Act} (ha : P a)
    (hacts : ∀ x ∈ untilReceive acts, P x) : ∀ x ∈ untilReceive (a :: acts), P x := by
  intro x hx
  by_cases hr : a = .receiveBegun
  · rw [hr, untilReceive_receiveBegun] at hx
    cases hx
  · rw [untilReceive_cons hr] at hx
    rcases List.mem_cons.mp hx with rfl | hx
    · exact ha
    · exact hacts x hx

namespace Act

/-- The message that a response hands over: the first one counts. -/
def delivery? : Act → Option Message
  | .received (.messages (m :: _)) => some m
  | _ => none

def received? : Act → Option Received
  | .received r => some r
  | _ => none

def call? : Act → Option Message
  | .taskBegun m => some m
  | _ => none

def success? : Act → Option Message
  | .taskEnded m .ok => some m
  | _ => none

def delete? : Act → Option Message
  | .deleteBegun m => some m
  | _ => none

def report? : Act → Option PoolError
  | .reported e _ => some e
  | _ => none

end Act

/-! ### Balances -/

/-- Two balances, one after the other. -/
theorem balance_append {α : Type} {a b c ins outs ins' outs' : List α}
    (h : a ++ ins = outs ++ b) (h' : b ++ ins' = outs' ++ c) :
    a ++ (ins ++ ins') = (outs ++ outs') ++ c := by
  rw [← List.append_assoc, h, List.append_assoc, h', List.append_assoc]

theorem filterMap_cons_eq {α β : Type} (f : α → Option β) (x : α) (xs : List α) :
    (x :: xs).filterMap f = (f x).toList ++ xs.filterMap f := by
  cases hx : f x <;> simp [hx]

end ConsumerPool
