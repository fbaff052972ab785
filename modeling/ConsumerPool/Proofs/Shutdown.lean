import ConsumerPool.Pool.Join
import ConsumerPool.Proofs.Delivery
import ConsumerPool.Proofs.Stop
import Mathlib.Data.List.Basic

/-! # Shutting Down

  Once the stop signal has fired, no receive begins or ends with a response, so
  the client keeps what it holds. A worker calls the task once more at most, on
  a message that it had received by then. It needs at most four more turns of
  its own to end or to wait for its task or its delete, whatever the others do. -/

namespace ConsumerPool

variable {w : Nat}

/-! ### What a worker still has to do -/

namespace Phase

/-- The message that a worker has received and not yet given to the task. -/
def held : Phase → List Message
  | .holding m => [m]
  | _ => []

/-- A bound on the turns that a worker takes on its own once the stop signal has
    fired, before it has ended or waits for its task or its delete. -/
def turnsLeft : Phase → Nat
  | .inTask _ | .deleting _ | .stopped | .crashed _ => 0
  | .holding _ | .leaving => 1
  | .polling | .receiving | .yielding | .pausing _ => 2
  | .spawned | .idling | .finishing _ => 3
  | .reporting _ _ | .deleteFailed _ _ => 4

theorem turnsLeft_le (phase : Phase) : phase.turnsLeft ≤ 4 := by
  cases phase <;> simp [turnsLeft]

/-- A worker without turns left has ended or is inside its task or its delete. -/
theorem turnsLeft_eq_zero_iff (phase : Phase) : phase.turnsLeft = 0 ↔
    phase.ended = true ∨ (∃ m, phase = .inTask m) ∨ ∃ m, phase = .deleting m := by
  cases phase <;> simp [turnsLeft, ended]

end Phase

namespace Pool

/-- The message that a worker has received and not yet given to the task. -/
def held (s : Pool) (w : Nat) : List Message := ((s.workers[w]?).map Phase.held).getD []

theorem held_cases (s : Pool) (w : Nat) :
    s.held w = [] ∨ ∃ m, s.workers[w]? = some (.holding m) ∧ s.held w = [m] := by
  unfold held
  cases s.workers[w]? with
  | none => exact .inl rfl
  | some phase =>
    cases phase with
    | holding m => exact .inr ⟨m, rfl, rfl⟩
    | _ => exact .inl rfl

/-! ### The step that fires the signal -/

/-- A turn that fires the stop signal begins no receive, and takes no response but
    the one that fires it. -/
theorem Turn.firing {s : Pool} {l : Label} {phase : Phase} {e : Effect}
    (ht : Turn s w l phase e) (hs : s.stop = false) (he : e.stop = true) :
    .receiveBegun ∉ e.acts ∧
      (e.queue = s.queue ∨ ∃ r, r.firesStop = true ∧ s.queue = r :: e.queue) := by
  -- no other turn changes the signal
  have hsame (h : e.stop = s.stop) : False := by
    rw [h, hs] at he
    cases he
  cases ht with
  | deliver _ hq | deliverNone _ hq | receiveFailed _ hq | receivePanicked _ hq =>
    exact ⟨by simp [effect], .inr ⟨_, he, hq⟩⟩
  | taskStop | deleteStop => exact ⟨by simp [effect], .inl rfl⟩
  | start | call | reportDropped _ | logFailure | complete | leave =>
    exfalso
    apply hsame
    simp only [spoken]
    split <;> rfl
  | _ => exact (hsame rfl).elim

/-! ### Turns after the signal -/

/-- Once the stop signal has fired, a turn takes no response, begins no receive, and
    calls the task at most on the message that the worker holds. -/
theorem Turn.late {s : Pool} {l : Label} {phase : Phase} {e : Effect}
    (ht : Turn s w l phase e) (hs : s.stop = true) :
    e.queue = s.queue ∧ .receiveBegun ∉ e.acts ∧ e.acts.filterMap Act.received? = [] ∧
      (e.acts.filterMap Act.call? ++ e.phase.held).Sublist phase.held := by
  cases ht with
  -- these turns need a signal that has not fired
  | pollBegin h | deliver h _ | deliverNone h _ | receiveFailed h _
  | receivePanicked h _ | yieldOver h | pauseBegin _ h | pauseOver h _ =>
    rw [hs] at h
    cases h
  | call =>
    simp only [spoken]
    split
    · exact ⟨rfl, by simp [effect], rfl, List.Sublist.refl _⟩
    · -- a logger that panics costs the worker the message it holds
      exact ⟨rfl, by simp [effect], rfl, List.nil_sublist _⟩
  | start | logFailure | complete | leave =>
    simp only [spoken]
    split <;> exact ⟨rfl, by simp [effect], rfl, List.nil_sublist _⟩
  | @reportDropped _ after _ =>
    simp only [spoken]
    split
    · exact ⟨rfl, by simp [effect], rfl, by cases after <;> exact List.nil_sublist _⟩
    · exact ⟨rfl, by simp [effect], rfl, List.nil_sublist _⟩
  | @reportTaken _ after _ =>
    exact ⟨rfl, by simp [effect], rfl, by cases after <;> exact List.nil_sublist _⟩
  | wait _ | noTask _ | noDelete _ =>
    exact ⟨rfl, by simp [effect], rfl, by simp [effect]⟩
  | _ => exact ⟨rfl, by simp [effect], rfl, List.nil_sublist _⟩

/-- Once the stop signal has fired, a turn of its own brings a worker nearer to its
    end or to its task or delete, unless it is there. -/
theorem Turn.nears {s : Pool} {phase : Phase} {e : Effect} (ht : Turn s w (.run w) phase e)
    (hw : s.workers[w]? = some phase) (hs : s.stop = true) :
    e.phase.turnsLeft < phase.turnsLeft ∨ (phase.turnsLeft = 0 ∧ e.phase = phase) := by
  cases ht with
  | wait hrun =>
    -- nobody waits for a response or a deadline any more
    refine .inr ⟨?_, rfl⟩
    cases phase <;> simp [canRun, hw, hs] at hrun <;> rfl
  | pollBegin h | deliver h _ | deliverNone h _ | receiveFailed h _
  | receivePanicked h _ | yieldOver h | pauseBegin _ h | pauseOver h _ =>
    rw [hs] at h
    cases h
  | start | call | logFailure | complete | leave =>
    left
    simp only [spoken]
    split <;> simp [effect, Phase.turnsLeft]
  | @reportDropped _ after _ =>
    left
    simp only [spoken]
    split
    · cases after <;> simp [effect, Phase.afterReport, Phase.turnsLeft]
    · simp [effect, Phase.turnsLeft]
  | @reportTaken _ after _ =>
    left
    cases after <;> simp [effect, Phase.afterReport, Phase.turnsLeft]
  | _ =>
    left
    simp [effect, Phase.turnsLeft]

/-! ### Steps after the signal -/

theorem late_queue {s : Pool} (hs : s.stop = true) (l : Label) :
    (s.step l).queue = s.queue ++ l.pushed := by
  cases stepKind s l with
  | outside _ hout => exact hout.queue_eq
  | absent hpush hsame => rw [hsame, hpush, List.append_nil]
  | turn hpush _ ht he =>
    rw [he, hpush, List.append_nil]
    exact (ht.late hs).1

theorem late_handedOver {s : Pool} (hs : s.stop = true) (l : Label) :
    (s.step l).handedOver = s.handedOver := by
  obtain ⟨taken, hq, hover⟩ := step_takes s l
  have hnone : taken = [] := by
    rw [late_queue hs l] at hq
    exact List.append_left_eq_self.mp hq.symm
  rw [hover, hnone, List.map_nil, List.append_nil]

/-- What one worker does in a step after the stop signal. -/
theorem late_news {s : Pool} (hs : s.stop = true) (l : Label) (w : Nat) :
    .receiveBegun ∉ s.news w l ∧ (s.news w l).filterMap Act.received? = [] ∧
      ((s.news w l).filterMap Act.call? ++ (s.step l).held w).Sublist (s.held w) := by
  rcases news_view s l w with ⟨hnews, hphase⟩ | ⟨phase, e, hp, ht, hphase, hnews⟩
  · have hheld : (s.step l).held w = s.held w := by rw [held, held, hphase]
    simp [hnews, hheld]
  · obtain ⟨-, hbegin, hreceived, hcalls⟩ := ht.late hs
    rw [hnews]
    refine ⟨hbegin, hreceived, ?_⟩
    simpa [held, hp, hphase] using hcalls

theorem stop_run {s : Pool} (hs : s.stop = true) (labels : List Label) :
    (s.run labels).stop = true :=
  run_invariant (I := fun t => t.stop = true) hs (fun _ l h => stop_step h l) labels

/-- A run after the stop signal takes nothing from the client. -/
theorem late_run {s : Pool} (hs : s.stop = true) (labels : List Label) :
    (s.run labels).queue = s.queue ++ labels.flatMap Label.pushed ∧
      (s.run labels).handedOver = s.handedOver := by
  induction labels generalizing s with
  | nil => simp
  | cons l ls ih =>
    obtain ⟨hq, hover⟩ := ih (stop_step hs l)
    constructor
    · rw [run_cons, hq, late_queue hs l, List.flatMap_cons, List.append_assoc]
    · rw [run_cons, hover, late_handedOver hs l]

/-- What one worker does along a run after the stop signal. -/
theorem late_acts {s : Pool} (hs : s.stop = true) (labels : List Label) (w : Nat) :
    ∃ new, (s.run labels).acts w = s.acts w ++ new ∧ .receiveBegun ∉ new ∧
      new.filterMap Act.received? = [] ∧
      (new.filterMap Act.call? ++ (s.run labels).held w).Sublist (s.held w) := by
  -- the calls made and the message still held are what is left of the one held at first
  induction labels generalizing s with
  | nil => exact ⟨[], by simp⟩
  | cons l ls ih =>
    obtain ⟨hbegin, hreceived, hcalls⟩ := late_news hs l w
    obtain ⟨new, hacts, hbegins, hreceiveds, hrest⟩ := ih (stop_step hs l)
    refine ⟨s.news w l ++ new, ?_, ?_, ?_, ?_⟩
    · rw [run_cons, hacts, acts_step, List.append_assoc]
    · simp [hbegin, hbegins]
    · rw [List.filterMap_append, hreceived, hreceiveds, List.append_nil]
    · rw [List.filterMap_append, List.append_assoc, run_cons]
      exact (hrest.append_left _).trans hcalls

/-! ### Coming to rest -/

/-- Whether no worker can take a step of its own. -/
def AtRest (s : Pool) : Prop := ∀ w, s.step (.run w) = s

theorem step_run_of_turnsLeft {s : Pool}
    (h : ∀ phase, s.workers[w]? = some phase → phase.turnsLeft = 0) :
    s.step (.run w) = s := by
  cases hw : s.workers[w]? with
  | none => exact step_absent rfl hw
  | some phase =>
    have hleft := h phase hw
    cases phase <;> simp [Phase.turnsLeft] at hleft <;> simp [step, runWorker, hw]

/-- Once the stop signal has fired, a pool is at rest exactly when no worker has turns
    left. -/
theorem atRest_iff {s : Pool} (hs : s.stop = true) :
    s.AtRest ↔ ∀ phase ∈ s.workers, phase.turnsLeft = 0 := by
  constructor
  · intro hrest phase hmem
    obtain ⟨w, hw⟩ := List.mem_iff_getElem?.mp hmem
    obtain ⟨e, ht, he⟩ := turn_of_run hw
    -- a step that changes nothing leaves the worker where it is
    have hphase : e.phase = phase := by
      have hsame : (s.apply w e).workers[w]? = some phase := by
        rw [← he]
        exact (congrArg (fun t : Pool => t.workers[w]?) (hrest w)).trans hw
      rw [phase_apply_self hw] at hsame
      exact Option.some.inj hsame
    rcases ht.nears hw hs with hlt | ⟨hzero, -⟩
    · rw [hphase] at hlt
      exact absurd hlt (Nat.lt_irrefl _)
    · exact hzero
  · intro h w
    exact step_run_of_turnsLeft fun phase hw => h phase (List.mem_of_getElem? hw)

/-- Each turn of its own after the stop signal leaves a worker fewer of them, and the
    turns of the others leave it where it is. -/
theorem turnsLeft_run {s : Pool} (hs : s.stop = true) {phase : Phase}
    (hw : s.workers[w]? = some phase) (turns : List Nat) :
    ∃ phase', (s.run (turns.map .run)).workers[w]? = some phase' ∧
      phase'.turnsLeft ≤ phase.turnsLeft - turns.count w := by
  induction turns generalizing s phase with
  | nil => exact ⟨phase, hw, by simp⟩
  | cons v vs ih =>
    rw [List.map_cons, run_cons]
    have hstop := stop_step hs (.run v)
    -- a turn of its own takes one away, a turn of another worker none
    by_cases hvw : v = w
    · subst hvw
      obtain ⟨e, ht, he⟩ := turn_of_step (l := .run v) rfl hw
      have hphase : (s.step (.run v)).workers[v]? = some e.phase := by
        rw [he, phase_apply_self hw]
      obtain ⟨phase', hw', hle⟩ := ih hstop hphase
      refine ⟨phase', hw', ?_⟩
      have hdown : e.phase.turnsLeft ≤ phase.turnsLeft - 1 := by
        rcases ht.nears hw hs with hlt | ⟨hzero, hsame⟩
        · omega
        · rw [hsame]
          omega
      rw [List.count_cons_self]
      omega
    · have hphase : (s.step (.run v)).workers[w]? = some phase := by
        rcases step_view s (.run v) w with ⟨-, hsame⟩ | ⟨_, _, _, ht, -⟩
        · rw [hsame, hw]
        · exact absurd (Option.some.inj ht.actor) hvw
      obtain ⟨phase', hw', hle⟩ := ih hstop hphase
      refine ⟨phase', hw', ?_⟩
      rwa [List.count_cons_of_ne hvw]

/-- Once the stop signal has fired, a pool is at rest when each worker has had four
    turns, in any order. -/
theorem atRest_of_turns {s : Pool} (hs : s.stop = true) {turns : List Nat}
    (h : ∀ w < s.workers.length, 4 ≤ turns.count w) : (s.run (turns.map .run)).AtRest := by
  rw [atRest_iff (stop_run hs _)]
  intro phase hmem
  obtain ⟨w, hw⟩ := List.mem_iff_getElem?.mp hmem
  have hlt : w < s.workers.length := by
    rw [← length_workers_run s (turns.map .run)]
    exact (List.getElem?_eq_some_iff.mp hw).1
  obtain ⟨phase', hw', hle⟩ := turnsLeft_run hs (List.getElem?_eq_getElem hlt) turns
  obtain rfl : phase' = phase := Option.some.inj (hw'.symm.trans hw)
  have hfour := h w hlt
  have hbound := Phase.turnsLeft_le s.workers[w]
  omega

/-! ### The guarantee -/

/-- What becomes of a pool when the stop signal fires. -/
structure StopsSafely (s : Pool) : Prop where
  /-- The step that fires the signal begins no receive, and takes no response but the
      one whose own delivery fires it. -/
  firing : ∀ l, s.stop = false → (s.step l).stop = true →
    (∀ w, .receiveBegun ∉ s.news w l) ∧ ((s.step l).queue = s.queue ++ l.pushed ∨
      ∃ r, r.firesStop = true ∧ s.queue = r :: (s.step l).queue)
  /-- The signal stays fired. -/
  stays : s.stop = true → ∀ labels, (s.run labels).stop = true
  /-- From then on the client keeps what it holds and what arrives. -/
  keeps : s.stop = true → ∀ labels,
    (s.run labels).queue = s.queue ++ labels.flatMap Label.pushed ∧
      (s.run labels).handedOver = s.handedOver
  /-- No worker begins a receive or gets a response from one that it is in, and each
      calls the task once more at most, on a message that it has just received. -/
  worker : s.stop = true → ∀ labels w, ∃ new, (s.run labels).acts w = s.acts w ++ new ∧
    .receiveBegun ∉ new ∧ new.filterMap Act.received? = [] ∧
    (new.filterMap Act.call? = [] ∨ ∃ m before ms, new.filterMap Act.call? = [m] ∧
      s.workers[w]? = some (.holding m) ∧
      s.acts w = before ++ [.received (.messages (m :: ms))])
  /-- Where no worker can take a step, each has ended or is inside its task or its
      delete. -/
  rests : s.stop = true → s.AtRest → ∀ phase ∈ s.workers,
    phase.ended = true ∨ (∃ m, phase = .inTask m) ∨ ∃ m, phase = .deleting m
  /-- This is so when each worker has had four turns, in any order. -/
  comesToRest : s.stop = true → ∀ turns : List Nat, (∀ w < s.workers.length, 4 ≤ turns.count w) →
    (s.run (turns.map .run)).AtRest
  /-- If no task and no delete is left then, the pool has finished, and nobody waits
      for it any more. -/
  finishes : s.stop = true → s.AtRest →
    (∀ m, .inTask m ∉ s.workers ∧ .deleting m ∉ s.workers) →
    s.isFinished = true ∧ s.joinStatus ≠ .pending

/-- Whether no worker has begun a receive, got a response or called the task. -/
def Untouched (s : Pool) : Prop :=
  ∀ w, .receiveBegun ∉ s.acts w ∧ (s.acts w).filterMap Act.received? = [] ∧
    (s.acts w).filterMap Act.call? = []

theorem firing_step {s : Pool} {l : Label} (hs : s.stop = false)
    (hl : (s.step l).stop = true) :
    (∀ w, .receiveBegun ∉ s.news w l) ∧ ((s.step l).queue = s.queue ++ l.pushed ∨
      ∃ r, r.firesStop = true ∧ s.queue = r :: (s.step l).queue) := by
  constructor
  · intro w hmem
    rcases step_view s l w with ⟨hacts, -⟩ | ⟨phase, e, -, ht, he⟩
    · simp [news, hacts] at hmem
    · have hnews : s.news w l = e.acts := by simp [news, he]
      rw [hnews] at hmem
      rw [he] at hl
      exact (ht.firing hs hl).1 hmem
  -- the outside only adds responses, and a worker takes the one that fires the signal
  · cases stepKind s l with
    | outside _ hout => exact .inl hout.queue_eq
    | absent hpush hsame => exact .inl (by rw [hsame, hpush, List.append_nil])
    | turn hpush _ ht he =>
      rw [he] at hl
      rw [he, hpush, List.append_nil]
      exact (ht.firing hs hl).2

/-- A pool that is at rest after the stop signal, with no task and no delete left, has
    finished. -/
theorem isFinished_of_atRest {s : Pool} (hs : s.stop = true) (hrest : s.AtRest)
    (hnone : ∀ m, .inTask m ∉ s.workers ∧ .deleting m ∉ s.workers) :
    s.isFinished = true := by
  rw [isFinished, List.all_eq_true]
  intro phase hmem
  have hleft := (atRest_iff hs).mp hrest phase hmem
  rcases phase.turnsLeft_eq_zero_iff.mp hleft with hended | ⟨m, rfl⟩ | ⟨m, rfl⟩
  · exact hended
  · exact absurd hmem (hnone m).1
  · exact absurd hmem (hnone m).2

/-- **Stop safety.** In every run of every pool that a start leaves, the stop signal ends
    all receives and lets each worker finish at most the message it has; a pool that is
    started after it receives nothing. -/
theorem run_stopsSafely {params : PoolParams} {around : Surroundings} {s : Pool}
    (hs : (start params around).running? = some s) (labels : List Label) :
    StopsSafely (s.run labels) ∧ (around.stop = true → Untouched (s.run labels)) := by
  have hl := launched_of_running hs
  refine ⟨?_, ?_⟩
  · constructor
    case firing => exact fun l hstop hfired => firing_step hstop hfired
    case stays => exact fun hstop later => stop_run hstop later
    case keeps => exact fun hstop later => late_run hstop later
    case worker =>
      intro hstop later w
      obtain ⟨new, hacts, hbegin, hreceived, hcalls⟩ := late_acts hstop later w
      refine ⟨new, hacts, hbegin, hreceived, ?_⟩
      have hcalls := (List.sublist_append_left _ _).trans hcalls
      -- the worker can call the task only if it holds a message now
      rcases (s.run labels).held_cases w with hnone | ⟨m, hm, hheld⟩
      · left
        rwa [hnone, List.sublist_nil] at hcalls
      · rw [hheld] at hcalls
        rcases List.sublist_singleton.mp hcalls with hnone | hone
        · exact .inl hnone
        · have hw : w < params.workerCount := by
            rw [← hl.length_workers, ← length_workers_run s labels]
            exact (List.getElem?_eq_some_iff.mp hm).1
          obtain ⟨stage, phase, h⟩ := run_follows hl hw labels
          obtain rfl : phase = .holding m := Option.some.inj (h.phase_eq.symm.trans hm)
          obtain rfl : stage = .holding m := by
            cases h.shows
            rfl
          obtain ⟨before, ms, hbefore⟩ := h.follows.before_holding
          exact .inr ⟨m, before, ms, hone, hm, hbefore⟩
    case rests =>
      intro hstop hrest phase hmem
      exact phase.turnsLeft_eq_zero_iff.mp ((atRest_iff hstop).mp hrest phase hmem)
    case comesToRest => exact fun hstop turns h => atRest_of_turns hstop h
    case finishes =>
      intro hstop hrest hnone
      have hfinished := isFinished_of_atRest hstop hrest hnone
      refine ⟨hfinished, fun hpending => ?_⟩
      rw [joinStatus_eq_pending_iff, hfinished] at hpending
      cases hpending
  · intro hstop w
    have hs0 : s.stop = true := by rw [hl.stop_eq, hstop]
    obtain ⟨new, hacts, hbegin, hreceived, hcalls⟩ := late_acts hs0 labels w
    rw [hl.acts_eq_nil, List.nil_append] at hacts
    rw [hacts]
    refine ⟨hbegin, hreceived, ?_⟩
    -- nobody holds a message at the start
    have hnone : s.held w = [] := by
      rcases s.held_cases w with hnone | ⟨m, hm, -⟩
      · exact hnone
      · cases hl.phase hm
    have hcalls := (List.sublist_append_left _ _).trans hcalls
    rwa [hnone, List.sublist_nil] at hcalls

/-- The first worker gets a response that fires the stop signal while the second one is
    in a receive: the message is still worked on, the other response stays. A pool that
    is started after the signal leaves both. -/
theorem run_stopsSafely_pair :
    (start .pair { queue :=
        [⟨.messages [default], true⟩, ⟨.failed (.receive "late"), false⟩] }).running? =
      some (pair [⟨.messages [default], true⟩, ⟨.failed (.receive "late"), false⟩]) ∧
    StopsSafely ((pair [⟨.messages [default], true⟩,
      ⟨.failed (.receive "late"), false⟩]).run [.run 0, .run 1, .run 0, .run 1, .run 0]) ∧
    ((pair [⟨.messages [default], true⟩, ⟨.failed (.receive "late"), false⟩]).run
        [.run 0, .run 1, .run 0, .run 1, .run 0]).stop = true ∧
    ((pair [⟨.messages [default], true⟩, ⟨.failed (.receive "late"), false⟩]).run
        [.run 0, .run 1, .run 0, .run 1, .run 0]).workers =
      [.holding default, .receiving] ∧
    ((pair [⟨.messages [default], true⟩, ⟨.failed (.receive "late"), false⟩]).run
        [.run 0, .run 1, .run 0, .run 1, .run 0, .run 1, .run 0, .run 1]).workers =
      [.inTask default, .stopped] ∧
    Untouched (({ pair [⟨.messages [default], true⟩] with stop := true } : Pool).run
      [.run 0, .run 0, .run 0]) :=
  ⟨rfl, (run_stopsSafely (pair_running _) _).1, by decide, by decide, by decide,
    (run_stopsSafely
      (show (start .pair { queue := [⟨.messages [default], true⟩], stop := true }).running? =
        some _ from rfl) _).2 rfl⟩

end Pool

end ConsumerPool
