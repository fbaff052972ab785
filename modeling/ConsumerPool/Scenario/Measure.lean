import ConsumerPool.Scenario.Scripted

/-! # The Work Left in a Scripted Pool

  Three numbers in this order of weight: the responses that the client still
  holds, the distance of each worker from its next wait, and what is left
  of the scripts that run. Every step that a worker takes on its own
  makes them smaller, so between two events of the outside only finitely many
  steps are possible, in any order of the workers. -/

namespace ConsumerPool.Scenario

/-! ### The measure -/

/-- A bound on the phases that a worker still goes through as long as it takes
    no response. -/
def rank : Phase → Nat
  | .holding _ => 11
  | .inTask _ => 10
  | .deleting _ => 9
  | .deleteFailed _ _ => 8
  | .finishing _ | .reporting _ _ => 7
  | .idling => 6
  | .spawned | .yielding | .pausing _ => 5
  | .polling => 4
  | .receiving => 3
  | .leaving => 2
  | .stopped | .crashed _ => 0

/-- How much a call in progress has left to do: each instruction counts twice,
    and a sleep that has begun once more. -/
def Progress.size {ε π : Type} (p : Progress ε π) : Nat :=
  2 * p.rest.length +
    match p.wakeAt with
    | some _ => 1
    | none => 0

/-- How much a worker's foreign code has left to do. -/
def Job.size : Job → Nat
  | .none => 0
  | .task p => p.size
  | .delete p => p.size

/-- The sum of a quantity along a list. -/
def total {α : Type} (f : α → Nat) : List α → Nat
  | [] => 0
  | x :: xs => f x + total f xs

/-- The work left in a scripted pool. -/
def Scripted.work (s : Scripted) : Nat × Nat × Nat :=
  (s.pool.queue.length, total rank s.pool.workers, total Job.size s.jobs)

/-- The order in which work gets less. -/
def Less : Nat × Nat × Nat → Nat × Nat × Nat → Prop :=
  Prod.Lex (· < ·) (Prod.Lex (· < ·) (· < ·))

/-! ### Sums along a list -/

/-- A sum along a list changes by the change of the entry that is set. -/
theorem total_set {α : Type} (f : α → Nat) :
    ∀ (l : List α) (i : Nat) (a b : α), l[i]? = some a →
      total f (l.set i b) + f a = total f l + f b
  | [], i, a, b, h => by simp at h
  | x :: xs, 0, a, b, h => by
    simp only [List.getElem?_cons_zero, Option.some.injEq] at h
    subst h
    simp only [List.set_cons_zero, total]
    omega
  | x :: xs, i + 1, a, b, h => by
    simp only [List.getElem?_cons_succ] at h
    have ih := total_set f xs i a b h
    simp only [List.set_cons_succ, total]
    omega

theorem total_set_lt {α : Type} {f : α → Nat} {l : List α} {i : Nat} {old new : α}
    (h : l[i]? = some old) (hlt : f new < f old) : total f (l.set i new) < total f l := by
  have := total_set f l i old new h
  omega

/-! ### Steps outside foreign code -/

/-- The worker comes nearer to its next wait and takes no response. -/
def Nears (s s' : Pool) (w : Nat) (old : Phase) : Prop :=
  s'.queue = s.queue ∧
    ∃ new, s'.workers = s.workers.set w new ∧ rank new < rank old

theorem nears_crash {s t : Pool} {w : Nat} {old : Phase} (payload : Payload)
    (hq : t.queue = s.queue) (hw : t.workers = s.workers) (hr : 0 < rank old) :
    Nears s (t.crash w payload) w old := by
  refine ⟨hq, .crashed payload, ?_, hr⟩
  simp only [Pool.crash, Pool.dropSender, Pool.enter, Pool.note, hw]

theorem nears_enter {s t : Pool} {w : Nat} {old new : Phase}
    (hq : t.queue = s.queue) (hw : t.workers = s.workers)
    (hr : rank new < rank old) : Nears s (t.enter w new) w old := by
  refine ⟨hq, new, ?_, hr⟩
  simp only [Pool.enter, hw]

/-- A step that writes a line brings a worker nearer to its wait if what
    follows the line does. -/
theorem nears_writing {s t : Pool} {w : Nat} {old : Phase} (line : LogLine)
    {next : Pool → Pool} (hq : t.queue = s.queue) (hw : t.workers = s.workers)
    (hr : 0 < rank old)
    (hn : ∀ u : Pool, u.queue = s.queue → u.workers = s.workers →
      Nears s (next u) w old) :
    Nears s (t.writing w line next) w old := by
  unfold Pool.writing Pool.write
  split
  · next u heq =>
    simp only [Prod.mk.injEq] at heq
    obtain ⟨rfl, -⟩ := heq
    exact hn _ hq hw
  · next u payload heq =>
    simp only [Prod.mk.injEq] at heq
    obtain ⟨rfl, -⟩ := heq
    exact nears_crash payload hq hw hr

theorem exists_of_canRun {s : Pool} {w : Nat} (h : s.canRun w = true) :
    ∃ phase, s.workers[w]? = some phase := by
  unfold Pool.canRun at h
  cases hw : s.workers[w]? with
  | some phase => exact ⟨phase, rfl⟩
  | none => simp [hw] at h

/-- A worker that can run either takes a response or comes nearer to its
    wait. -/
theorem runWorker_nears {s : Pool} {w : Nat} {phase : Phase}
    (h : s.workers[w]? = some phase) (hc : s.canRun w = true) :
    (s.runWorker w).queue.length < s.queue.length ∨ Nears s (s.runWorker w) w phase := by
  unfold Pool.canRun at hc
  unfold Pool.runWorker
  rw [h] at hc ⊢
  cases phase with
  | spawned =>
    right
    exact nears_writing _ rfl rfl (by decide) fun u hq hw =>
      nears_enter hq hw (by decide)
  | polling =>
    right
    simp only [Pool.poll]
    split
    · exact nears_enter rfl rfl (by decide)
    · exact nears_enter rfl rfl (by decide)
  | receiving =>
    simp only [Pool.receive]
    split
    · right
      exact nears_enter rfl rfl (by decide)
    · next hs =>
      cases hq : s.queue with
      | nil => simp [hq, hs] at hc
      | cons r rest =>
        left
        simp only [Pool.accept]
        split <;> simp [Pool.enter, Pool.crash, Pool.dropSender, Pool.note]
  | holding m =>
    right
    exact nears_writing _ rfl rfl (by simp [rank]) fun u hq hw =>
      nears_enter hq hw (by simp [rank])
  | inTask m => simp at hc
  | reporting e after =>
    right
    have hlow : rank (.afterReport after) < rank (.reporting e after) := by
      cases after <;> simp [rank, Phase.afterReport]
    simp only [Pool.report]
    split
    · exact nears_enter rfl rfl hlow
    · exact nears_writing _ rfl rfl (by simp [rank]) fun u hq hw =>
        nears_enter hq hw hlow
  | deleting m => simp at hc
  | deleteFailed m e =>
    right
    exact nears_writing _ rfl rfl (by simp [rank]) fun u hq hw =>
      nears_enter hq hw (by simp [rank])
  | finishing m =>
    right
    exact nears_writing _ rfl rfl (by simp [rank]) fun u hq hw =>
      nears_enter hq hw (by simp [rank])
  | idling =>
    right
    simp only [Pool.idle]
    split
    · exact nears_enter rfl rfl (by decide)
    · split
      · exact nears_enter rfl rfl (by decide)
      · exact nears_enter rfl rfl (by simp [rank])
  | yielding =>
    right
    refine nears_enter rfl rfl ?_
    split <;> decide
  | pausing deadline =>
    right
    simp only [Pool.pause]
    split
    · exact nears_enter rfl rfl (by simp [rank])
    · split
      · exact nears_enter rfl rfl (by simp [rank])
      · next hs hd => simp [hs, hd] at hc
  | leaving =>
    right
    refine nears_writing _ rfl rfl (by decide) fun u hq hw => ?_
    -- dropping the sender moves nobody
    obtain ⟨hqueue, hmoved⟩ : Nears s ((u.note (some w) .exited).enter w .stopped) w .leaving :=
      nears_enter hq hw (by decide)
    exact ⟨hqueue, hmoved⟩
  | stopped => simp at hc
  | crashed payload => simp at hc

/-! ### Steps inside foreign code -/

/-- The end of a task brings its worker nearer to its wait. -/
theorem endTask_nears {s : Pool} {w : Nat} {m : Message}
    (outcome : Outcome TaskError Thrown) (h : s.workers[w]? = some (.inTask m)) :
    Nears s (s.step (.task w (.finish outcome))) w (.inTask m) := by
  simp only [Pool.step, Pool.moveTask, h, Pool.endTask]
  cases outcome with
  | ok => exact nears_enter rfl rfl (by simp [rank])
  | failed source => exact nears_enter rfl rfl (by simp [rank])
  | panicked thrown =>
    simp only [Pool.recoverTask]
    split
    · simp only [Pool.changeTask]
      split
      · exact nears_enter rfl rfl (by simp [rank])
      · split
        · exact nears_enter rfl rfl (by simp [rank])
        · exact nears_crash _ rfl rfl (by simp [rank])
    · exact nears_crash _ rfl rfl (by simp [rank])

theorem endDelete_nears {s : Pool} {w : Nat} {m : Message} (outcome : Outcome PoolError)
    (h : s.workers[w]? = some (.deleting m)) :
    Nears s (s.step (.delete w (.finish outcome))) w (.deleting m) := by
  simp only [Pool.step, Pool.moveDelete, h, Pool.endDelete]
  cases outcome with
  | ok => exact nears_enter rfl rfl (by simp [rank])
  | failed e => exact nears_enter rfl rfl (by simp [rank])
  | panicked payload => exact nears_crash _ rfl rfl (by simp [rank])

/-- Firing the stop signal from a task takes no response and moves nobody. -/
theorem stopFromTask_keeps (s : Pool) (w : Nat) :
    (s.step (.task w .fireStop)).queue = s.queue ∧
      (s.step (.task w .fireStop)).workers = s.workers := by
  simp only [Pool.step, Pool.moveTask]
  split <;> simp_all [Pool.fireStop]

theorem stopFromDelete_keeps (s : Pool) (w : Nat) :
    (s.step (.delete w .fireStop)).queue = s.queue ∧
      (s.step (.delete w .fireStop)).workers = s.workers := by
  simp only [Pool.step, Pool.moveDelete]
  split <;> simp_all [Pool.fireStop]

/-! ### Instructions -/

theorem next_smaller {ε π : Type} {p q : Progress ε π} {timer : Timer} {clock : Nat}
    (h : p.next timer clock = .pass q ∨ p.next timer clock = .fireStop q) :
    q.size < p.size := by
  unfold Progress.next at h
  split at h
  · next deadline hw =>
    split at h
    · simp only [NextMove.pass.injEq, reduceCtorEq, or_false] at h
      subst h
      simp [Progress.size, hw]
    · simp at h
  · next hw =>
    cases hr : p.rest with
    | nil => simp [hr, Progress.perform] at h
    | cons i rest =>
      -- only three instructions go on
      cases i <;> simp [hr, Progress.perform] at h <;> subst h <;>
        simp only [Progress.size, hr, hw, List.length_cons]
      case yield => omega
      case sleep duration => omega
      case fireStop => omega

/-! ### Steps of a scripted pool -/

theorem less_of_nears {s s' : Scripted} {w : Nat} {old : Phase}
    (h : s.pool.workers[w]? = some old) (hn : Nears s.pool s'.pool w old) :
    Less s'.work s.work := by
  obtain ⟨hq, new, hw, hr⟩ := hn
  simp only [Less, Scripted.work, hq, hw]
  exact Prod.Lex.right _ (Prod.Lex.left _ _ (total_set_lt h hr))

theorem less_of_queue {s s' : Scripted}
    (h : s'.pool.queue.length < s.pool.queue.length) : Less s'.work s.work :=
  Prod.Lex.left _ _ h

theorem less_of_size {s s' : Scripted} {w : Nat} {old new : Job}
    (hq : s'.pool.queue = s.pool.queue) (hw : s'.pool.workers = s.pool.workers)
    (hj : s'.jobs = s.jobs.set w new) (h : s.jobs[w]? = some old)
    (hlt : new.size < old.size) : Less s'.work s.work := by
  simp only [Less, Scripted.work, hq, hw, hj]
  exact Prod.Lex.right _ (Prod.Lex.right _ (total_set_lt h hlt))

theorem stepTask?_less {s s' : Scripted} {w : Nat} {m : Message}
    {p : Progress TaskError Thrown} (h : s.pool.workers[w]? = some (.inTask m))
    (hj : s.jobs[w]? = some (.task p)) (hs : s.stepTask? w p = some s') : Less s'.work s.work := by
  unfold Scripted.stepTask? at hs
  split at hs
  · simp at hs
  · next q hn =>
    simp only [Option.some.injEq] at hs
    subst hs
    exact less_of_size rfl rfl rfl hj (next_smaller (Or.inl hn))
  · next q hn =>
    simp only [Option.some.injEq] at hs
    subst hs
    obtain ⟨hq, hw⟩ := stopFromTask_keeps s.pool w
    exact less_of_size hq hw rfl hj (next_smaller (Or.inr hn))
  · next outcome hn =>
    simp only [Option.some.injEq] at hs
    subst hs
    exact less_of_nears h (endTask_nears outcome h)

theorem stepDelete?_less {s s' : Scripted} {w : Nat} {m : Message} {p : Progress PoolError}
    (h : s.pool.workers[w]? = some (.deleting m)) (hj : s.jobs[w]? = some (.delete p))
    (hs : s.stepDelete? w p = some s') : Less s'.work s.work := by
  unfold Scripted.stepDelete? at hs
  split at hs
  · simp at hs
  · next q hn =>
    simp only [Option.some.injEq] at hs
    subst hs
    exact less_of_size rfl rfl rfl hj (next_smaller (Or.inl hn))
  · next q hn =>
    simp only [Option.some.injEq] at hs
    subst hs
    obtain ⟨hq, hw⟩ := stopFromDelete_keeps s.pool w
    exact less_of_size hq hw rfl hj (next_smaller (Or.inr hn))
  · next outcome hn =>
    simp only [Option.some.injEq] at hs
    subst hs
    exact less_of_nears h (endDelete_nears outcome h)

/-- Every step that a worker takes on its own leaves less work. -/
theorem step?_less {s s' : Scripted} {w : Nat} (hs : s.step? w = some s') :
    Less s'.work s.work := by
  unfold Scripted.step? at hs
  split at hs
  · next m p h hj => exact stepTask?_less h hj hs
  · next m p h hj => exact stepDelete?_less h hj hs
  · split at hs
    · next hc =>
      simp only [Option.some.injEq] at hs
      subst hs
      obtain ⟨phase, h⟩ := exists_of_canRun hc
      rcases runWorker_nears h hc with hq | hn
      · exact less_of_queue hq
      · exact less_of_nears h hn
    · simp at hs

end ConsumerPool.Scenario
