import ConsumerPool.Proofs.Run

/-! # Turns of Workers

  All that a step of one worker can do to the pool, said once. A label names
  at most one worker that acts. Its turn adds acts to the record, moves it to
  another phase and may fire the stop signal, take a response or use the error
  channel; `turn_of_step` lists the cases with their conditions, and
  `step_outside` says what all other labels leave alone. -/

namespace ConsumerPool

/-- The worker that acts under a label. -/
def Label.actor? : Label → Option Nat
  | .run w | .task w _ | .delete w _ => some w
  | .push _ | .fireStop | .advance _ | .setTransform _ | .readError | .closeErrors
  | .dropErrors | .join | .shutdown | .dropHandle => none

def Label.pushed : Label → List Response
  | .push responses => responses
  | _ => []

/-- The transform that is set for the process under a label. -/
def Label.transform? : Label → Option Transform
  | .setTransform t => some t
  | _ => none

/-- Whether an act is one of the reader of the error channel. -/
def Act.isReading : Act → Bool
  | .errorRead _ | .errorsDiscarded _ => true
  | _ => false

namespace Act

@[simp] def isLine : Act → Bool
  | .logged _ => true
  | _ => false

/-- Whether an act is the last one of a worker. -/
@[simp] def isLast : Act → Bool
  | .exited | .crashed _ => true
  | _ => false

@[simp] def change? : Act → Option TaskError
  | .transformed _ e => some e
  | _ => none

end Act

namespace Pool

/-! ### Effects -/

/-- What a turn of a worker changes. -/
structure Effect where
  acts : List Act
  phase : Phase
  stop : Bool
  queue : List Response
  channel : ErrorChannel

/-- The effect that touches nothing that is shared. -/
def effect (s : Pool) (acts : List Act) (phase : Phase) : Effect :=
  { acts, phase, stop := s.stop, queue := s.queue, channel := s.channel }

/-- What the logger panics with on the next line, if it does. -/
def answer (s : Pool) (line : LogLine) : Option Payload :=
  s.params.loggerInUse.panics s.lines line

/-- The effect of acts with a line after the first ones: a panic of the logger
    ends the worker there. -/
def spoken (s : Pool) (first : List Act) (line : LogLine) (then_ : List Act)
    (phase : Phase) : Effect :=
  match s.answer line with
  | none => s.effect (first ++ .logged line :: then_) phase
  | some p => s.effect (first ++ [.logged line, .crashed p]) (.crashed p)

/-- The pool after a turn. -/
def apply (s : Pool) (w : Nat) (e : Effect) : Pool :=
  { s with
    stop := e.stop
    queue := e.queue
    channel := e.channel
    workers := s.workers.set w e.phase
    lines := s.lines + e.acts.countP Act.isLine
    changed := s.changed ++ e.acts.filterMap Act.change?
    senders := s.senders - e.acts.countP Act.isLast
    record := s.record ++ e.acts.map fun a => ⟨s.clock, some w, a⟩ }

/-! ### Turns -/

/-- The turns of a worker: what a label makes of a worker in a phase. -/
inductive Turn (s : Pool) (w : Nat) : Label → Phase → Effect → Prop where
  /-- The worker waits, or it has ended, or its foreign code has the turn. -/
  | wait {phase} : s.canRun w = false → Turn s w (.run w) phase (s.effect [] phase)
  | noTask {phase move} : (∀ m, phase ≠ .inTask m) →
      Turn s w (.task w move) phase (s.effect [] phase)
  | noDelete {phase move} : (∀ m, phase ≠ .deleting m) →
      Turn s w (.delete w move) phase (s.effect [] phase)
  | start : Turn s w (.run w) .spawned (s.spoken [] (.workerStarted w) [] .polling)
  | pollStopped : s.stop = true → Turn s w (.run w) .polling (s.effect [] .leaving)
  | pollBegin : s.stop = false →
      Turn s w (.run w) .polling (s.effect [.receiveBegun] .receiving)
  | abandon : s.stop = true →
      Turn s w (.run w) .receiving (s.effect [.receiveAbandoned] .leaving)
  | deliver {m ms fires rest} : s.stop = false →
      s.queue = ⟨.messages (m :: ms), fires⟩ :: rest →
      Turn s w (.run w) .receiving
        { s.effect [.received (.messages (m :: ms))] (.holding m) with
          queue := rest, stop := fires }
  | deliverNone {fires rest} : s.stop = false → s.queue = ⟨.messages [], fires⟩ :: rest →
      Turn s w (.run w) .receiving
        { s.effect [.received (.messages [])] .idling with queue := rest, stop := fires }
  | receiveFailed {e fires rest} : s.stop = false → s.queue = ⟨.failed e, fires⟩ :: rest →
      Turn s w (.run w) .receiving
        { s.effect [.received (.failed e)] (.reporting e .idle) with
          queue := rest, stop := fires }
  | receivePanicked {p fires rest} : s.stop = false →
      s.queue = ⟨.panicked p, fires⟩ :: rest →
      Turn s w (.run w) .receiving
        { s.effect [.received (.panicked p), .crashed p] (.crashed p) with
          queue := rest, stop := fires }
  | call {m} : Turn s w (.run w) (.holding m)
      (s.spoken [] (.processing m.shownId) [.taskBegun m] (.inTask m))
  | reportTaken {e after} : s.channel.accepts = true →
      Turn s w (.run w) (.reporting e after)
        { s.effect [.reported e true] (.afterReport after) with
          channel := { s.channel with unread := s.channel.unread ++ [e] } }
  | reportDropped {e after} : s.channel.accepts = false →
      Turn s w (.run w) (.reporting e after)
        { s.spoken [.reported e false] (.errorDropped e) [] (.afterReport after) with
          channel := { s.channel with dropped := s.channel.dropped + 1 } }
  | logFailure {m e} : Turn s w (.run w) (.deleteFailed m e)
      (s.spoken [] (.deleteFailed m.shownId e) [] (.finishing m))
  | complete {m} : Turn s w (.run w) (.finishing m)
      (s.spoken [] (.completed m.shownId) [] .polling)
  | yield : s.params.emptyPollDelay = 0 →
      Turn s w (.run w) .idling (s.effect [] .yielding)
  | idleStopped : s.params.emptyPollDelay ≠ 0 → s.stop = true →
      Turn s w (.run w) .idling (s.effect [] .leaving)
  | pauseBegin : s.params.emptyPollDelay ≠ 0 → s.stop = false →
      Turn s w (.run w) .idling
        (s.effect [.paused (s.timer.deadline s.clock s.params.emptyPollDelay)]
          (.pausing (s.timer.deadline s.clock s.params.emptyPollDelay)))
  | yieldStopped : s.stop = true → Turn s w (.run w) .yielding (s.effect [] .leaving)
  | yieldOver : s.stop = false → Turn s w (.run w) .yielding (s.effect [] .polling)
  | pauseStopped {d} : s.stop = true →
      Turn s w (.run w) (.pausing d) (s.effect [] .leaving)
  | pauseOver {d} : s.stop = false → d ≤ s.clock →
      Turn s w (.run w) (.pausing d) (s.effect [] .polling)
  | leave : Turn s w (.run w) .leaving (s.spoken [] (.workerStopped w) [.exited] .stopped)
  | taskStop {m} : Turn s w (.task w .fireStop) (.inTask m)
      { s.effect [] (.inTask m) with stop := true }
  | taskOk {m} : Turn s w (.task w (.finish .ok)) (.inTask m)
      (s.effect [.taskEnded m .ok, .deleteBegun m] (.deleting m))
  | taskFailed {m source} : Turn s w (.task w (.finish (.failed source))) (.inTask m)
      (s.effect [.taskEnded m (.failed source)]
        (.reporting (.task m.shownId source) .poll))
  | taskPanicked {m p} : s.transformInForce = none →
      Turn s w (.task w (.finish (.panicked (.plain p)))) (.inTask m)
        (s.effect [.taskEnded m (.panicked (.plain p))]
          (.reporting (.task m.shownId p.recovered) .poll))
  | taskRecovered {m p origin t source} : s.transformInForce = some (origin, t) →
      t p.recovered = .ok source →
      Turn s w (.task w (.finish (.panicked (.plain p)))) (.inTask m)
        (s.effect [.taskEnded m (.panicked (.plain p)), .transformed origin p.recovered]
          (.reporting (.task m.shownId source) .poll))
  | taskLost {m p origin t q} : s.transformInForce = some (origin, t) →
      t p.recovered = .error q →
      Turn s w (.task w (.finish (.panicked (.plain p)))) (.inTask m)
        (s.effect
          [.taskEnded m (.panicked (.plain p)), .transformed origin p.recovered, .crashed q]
          (.crashed q))
  | disposalPanicked {m q} :
      Turn s w (.task w (.finish (.panicked (.fragile q)))) (.inTask m)
        (s.effect [.taskEnded m (.panicked (.fragile q)), .crashed q] (.crashed q))
  | deleteStop {m} : Turn s w (.delete w .fireStop) (.deleting m)
      { s.effect [] (.deleting m) with stop := true }
  | deleteOk {m} : Turn s w (.delete w (.finish .ok)) (.deleting m)
      (s.effect [.deleteEnded m .ok] (.finishing m))
  | deleteFailed {m e} : Turn s w (.delete w (.finish (.failed e))) (.deleting m)
      (s.effect [.deleteEnded m (.failed e)] (.deleteFailed m e))
  | deletePanicked {m p} : Turn s w (.delete w (.finish (.panicked p))) (.deleting m)
      (s.effect [.deleteEnded m (.panicked p), .crashed p] (.crashed p))

/-! ### Every step of a worker is a turn -/

theorem Turn.actor {s : Pool} {l : Label} {phase : Phase} {e : Effect}
    (ht : Turn s w l phase e) : l.actor? = some w := by
  cases ht <;> rfl

theorem set_same {s : Pool} {w : Nat} {phase : Phase} (h : s.workers[w]? = some phase) :
    s.workers.set w phase = s.workers := by
  obtain ⟨hlt, rfl⟩ := List.getElem?_eq_some_iff.mp h
  exact List.set_getElem_self hlt

theorem apply_rest {s : Pool} {w : Nat} {phase : Phase} (h : s.workers[w]? = some phase) :
    s.apply w (s.effect [] phase) = s := by
  simp [apply, effect, set_same h]

/-- Writing a line and going on has the effect of speaking it. -/
theorem writing_eq_apply {s : Pool} {w : Nat} {acts : List Act} {phase : Phase}
    {next : Pool → Pool} (line : LogLine) (hlines : acts.countP Act.isLine = 0)
    (hchanges : ∀ a ∈ acts, a.change? = none)
    (hnext : ∀ t : Pool, next t =
      { t with
        record := t.record ++ acts.map fun a => ⟨t.clock, some w, a⟩
        workers := t.workers.set w phase
        senders := t.senders - acts.countP Act.isLast }) :
    s.writing w line next = s.apply w (s.spoken [] line acts phase) := by
  unfold writing write spoken answer
  -- the logger takes the line, or it panics and nothing follows
  split
  · next t heq =>
    simp only [Prod.mk.injEq] at heq
    obtain ⟨rfl, heq⟩ := heq
    simp [heq, hnext, apply, effect, note, List.countP_cons, hlines]
    exact hchanges
  · next t p heq =>
    simp only [Prod.mk.injEq] at heq
    obtain ⟨rfl, heq⟩ := heq
    simp [heq, apply, effect, crash, enter, note, dropSender, List.countP_cons]

/-- A report that is not taken is counted, and the error is spoken. -/
theorem report_eq_apply {s : Pool} {w : Nat} {e : PoolError} (after : AfterReport)
    (h : s.channel.accepts = false) :
    s.report w e after = s.apply w
      { s.spoken [.reported e false] (.errorDropped e) [] (.afterReport after) with
        channel := { s.channel with dropped := s.channel.dropped + 1 } } := by
  have hr : s.channel.report e = ({ s.channel with dropped := s.channel.dropped + 1 }, some e) := by
    simp [ErrorChannel.report, h]
  simp only [report, hr, writing, write, spoken, answer]
  split
  · next t heq =>
    simp only [Prod.mk.injEq] at heq
    obtain ⟨rfl, heq⟩ := heq
    simp only [note] at heq
    simp [heq, apply, effect, enter, note, List.countP_cons]
  · next t p heq =>
    simp only [Prod.mk.injEq] at heq
    obtain ⟨rfl, heq⟩ := heq
    simp only [note] at heq
    simp [heq, apply, effect, crash, enter, note, dropSender, List.countP_cons]

theorem turn_of_receive {s : Pool} {w : Nat} (h : s.workers[w]? = some .receiving) :
    ∃ e, Turn s w (.run w) .receiving e ∧ s.receive w = s.apply w e := by
  unfold receive
  -- the stop signal first, as it wins over a response
  cases hs : s.stop with
  | true => exact ⟨_, .abandon hs, by simp [apply, effect, enter, note, hs]⟩
  | false =>
    cases hq : s.queue with
    | nil =>
      refine ⟨_, .wait (by simp [canRun, h, hs, hq]), ?_⟩
      simp [apply_rest h]
    | cons r rest =>
      obtain ⟨received, fires⟩ := r
      cases received with
      | messages ms =>
        cases ms with
        | nil =>
          refine ⟨_, .deliverNone hs hq, ?_⟩
          simp [accept, apply, effect, enter, note]
        | cons m ms =>
          refine ⟨_, .deliver hs hq, ?_⟩
          simp [accept, apply, effect, enter, note]
      | failed e =>
        refine ⟨_, .receiveFailed hs hq, ?_⟩
        simp [accept, apply, effect, enter, note]
      | panicked p =>
        refine ⟨_, .receivePanicked hs hq, ?_⟩
        simp [accept, apply, effect, crash, enter, note, dropSender]

/-- The step that is due for a worker is one of its turns. -/
theorem turn_of_run {s : Pool} {w : Nat} {phase : Phase} (h : s.workers[w]? = some phase) :
    ∃ e, Turn s w (.run w) phase e ∧ s.runWorker w = s.apply w e := by
  cases phase with
  | spawned =>
    refine ⟨_, .start, ?_⟩
    simp only [runWorker, h]
    exact writing_eq_apply _ rfl (by simp) fun t => by simp [enter]
  | polling =>
    simp only [runWorker, h, poll]
    cases hs : s.stop with
    | true => exact ⟨_, .pollStopped hs, by simp [apply, effect, enter, hs]⟩
    | false =>
      exact ⟨_, .pollBegin hs, by simp [apply, effect, enter, note, hs]⟩
  | receiving =>
    obtain ⟨e, ht, he⟩ := turn_of_receive h
    exact ⟨e, ht, by simp only [runWorker, h, he]⟩
  | holding m =>
    refine ⟨_, .call, ?_⟩
    simp only [runWorker, h]
    exact writing_eq_apply _ rfl (by simp) fun t => by simp [enter, note]
  | inTask m =>
    exact ⟨_, .wait (by simp [canRun, h]), by simp [runWorker, h, apply_rest h]⟩
  | reporting e after =>
    simp only [runWorker, h]
    cases ha : s.channel.accepts with
    | true =>
      refine ⟨_, .reportTaken ha, ?_⟩
      simp [report, ErrorChannel.report, ha, apply, effect, enter, note]
    | false => exact ⟨_, .reportDropped ha, report_eq_apply after ha⟩
  | deleting m =>
    exact ⟨_, .wait (by simp [canRun, h]), by simp [runWorker, h, apply_rest h]⟩
  | deleteFailed m e =>
    refine ⟨_, .logFailure, ?_⟩
    simp only [runWorker, h]
    exact writing_eq_apply _ rfl (by simp) fun t => by simp [enter]
  | finishing m =>
    refine ⟨_, .complete, ?_⟩
    simp only [runWorker, h]
    exact writing_eq_apply _ rfl (by simp) fun t => by simp [enter]
  | idling =>
    simp only [runWorker, h, idle]
    by_cases hd : s.params.emptyPollDelay = 0
    · exact ⟨_, .yield hd, by simp [hd, apply, effect, enter]⟩
    · cases hs : s.stop with
      | true => exact ⟨_, .idleStopped hd hs, by simp [hd, hs, apply, effect, enter]⟩
      | false =>
        refine ⟨_, .pauseBegin hd hs, ?_⟩
        simp [hd, hs, apply, effect, enter, note]
  | yielding =>
    simp only [runWorker, h, resume]
    cases hs : s.stop with
    | true => exact ⟨_, .yieldStopped hs, by simp [hs, apply, effect, enter]⟩
    | false => exact ⟨_, .yieldOver hs, by simp [hs, apply, effect, enter]⟩
  | pausing d =>
    simp only [runWorker, h, pause]
    cases hs : s.stop with
    | true => exact ⟨_, .pauseStopped hs, by simp [hs, apply, effect, enter]⟩
    | false =>
      by_cases hd : d ≤ s.clock
      · exact ⟨_, .pauseOver hs hd, by simp [hd, hs, apply, effect, enter]⟩
      · refine ⟨_, .wait (by simp [canRun, h, hs, hd]), ?_⟩
        simp [hd, apply_rest h]
  | leaving =>
    refine ⟨_, .leave, ?_⟩
    simp only [runWorker, h]
    exact writing_eq_apply _ rfl (by simp) fun t => by simp [enter, note, dropSender]
  | stopped => exact ⟨_, .wait (by simp [canRun, h]), by simp [runWorker, h, apply_rest h]⟩
  | crashed p => exact ⟨_, .wait (by simp [canRun, h]), by simp [runWorker, h, apply_rest h]⟩

theorem turn_of_task {s : Pool} {w : Nat} {phase : Phase} (move : Move TaskError Thrown)
    (h : s.workers[w]? = some phase) :
    ∃ e, Turn s w (.task w move) phase e ∧ s.moveTask w move = s.apply w e := by
  by_cases hm : ∃ m, phase = .inTask m
  · obtain ⟨m, rfl⟩ := hm
    cases move with
    | fireStop =>
      refine ⟨_, .taskStop, ?_⟩
      simp [moveTask, h, fireStop, apply, effect, set_same h]
    | finish outcome =>
      cases outcome with
      | ok =>
        refine ⟨_, .taskOk, ?_⟩
        simp [moveTask, h, endTask, apply, effect, enter, note]
      | failed source =>
        refine ⟨_, .taskFailed, ?_⟩
        simp [moveTask, h, endTask, failTask, apply, effect, enter, note]
      | panicked thrown =>
        cases thrown with
        | fragile q =>
          refine ⟨_, .disposalPanicked, ?_⟩
          simp [moveTask, h, endTask, recoverTask, Thrown.recover, apply, effect, crash, enter,
            note, dropSender]
        | plain p =>
          -- the record has grown, which no transform depends on
          have hforce : (s.note (some w) (.taskEnded m (.panicked (.plain p)))).transformInForce =
            s.transformInForce := rfl
          simp only [moveTask, h, endTask, recoverTask, Thrown.recover, changeTask, hforce]
          cases hf : s.transformInForce with
          | none =>
            refine ⟨_, .taskPanicked hf, ?_⟩
            simp [failTask, apply, effect, enter, note]
          | some ot =>
            obtain ⟨origin, t⟩ := ot
            cases ht : t p.recovered with
            | ok source =>
              refine ⟨_, .taskRecovered hf ht, ?_⟩
              simp [ht, failTask, apply, effect, enter, note, List.filterMap_cons]
            | error q =>
              refine ⟨_, .taskLost hf ht, ?_⟩
              simp [ht, apply, effect, crash, enter, note, dropSender, List.filterMap_cons]
  · have hm' : ∀ m, phase ≠ .inTask m := fun m heq => hm ⟨m, heq⟩
    refine ⟨_, .noTask hm', ?_⟩
    rw [apply_rest h]
    cases phase <;> simp_all [moveTask]

theorem turn_of_delete {s : Pool} {w : Nat} {phase : Phase} (move : Move PoolError)
    (h : s.workers[w]? = some phase) :
    ∃ e, Turn s w (.delete w move) phase e ∧ s.moveDelete w move = s.apply w e := by
  by_cases hm : ∃ m, phase = .deleting m
  · obtain ⟨m, rfl⟩ := hm
    cases move with
    | fireStop =>
      refine ⟨_, .deleteStop, ?_⟩
      simp [moveDelete, h, fireStop, apply, effect, set_same h]
    | finish outcome =>
      cases outcome with
      | ok =>
        refine ⟨_, .deleteOk, ?_⟩
        simp [moveDelete, h, endDelete, apply, effect, enter, note]
      | failed e =>
        refine ⟨_, .deleteFailed, ?_⟩
        simp [moveDelete, h, endDelete, apply, effect, enter, note]
      | panicked p =>
        refine ⟨_, .deletePanicked, ?_⟩
        simp [moveDelete, h, endDelete, apply, effect, crash, enter, note, dropSender]
  · have hm' : ∀ m, phase ≠ .deleting m := fun m heq => hm ⟨m, heq⟩
    refine ⟨_, .noDelete hm', ?_⟩
    rw [apply_rest h]
    cases phase <;> simp_all [moveDelete]

/-- **Inversion of a step.** A label under which a worker acts makes it take a
    turn, and the turn is all that happens. -/
theorem turn_of_step {s : Pool} {w : Nat} {phase : Phase} {l : Label}
    (hl : l.actor? = some w) (h : s.workers[w]? = some phase) :
    ∃ e, Turn s w l phase e ∧ s.step l = s.apply w e := by
  cases l with
  | run v =>
    obtain rfl : v = w := Option.some.inj hl
    exact turn_of_run h
  | task v move =>
    obtain rfl : v = w := Option.some.inj hl
    exact turn_of_task move h
  | delete v move =>
    obtain rfl : v = w := Option.some.inj hl
    exact turn_of_delete move h
  | push _ | fireStop | advance _ | setTransform _ | readError | closeErrors | dropErrors
  | join | shutdown | dropHandle => simp [Label.actor?] at hl

theorem step_absent {s : Pool} {w : Nat} {l : Label} (hl : l.actor? = some w)
    (h : s.workers[w]? = none) : s.step l = s := by
  cases l with
  | run v =>
    obtain rfl : v = w := Option.some.inj hl
    simp [step, runWorker, h]
  | task v move =>
    obtain rfl : v = w := Option.some.inj hl
    simp [step, moveTask, h]
  | delete v move =>
    obtain rfl : v = w := Option.some.inj hl
    simp [step, moveDelete, h]
  | push _ | fireStop | advance _ | setTransform _ | readError | closeErrors | dropErrors
  | join | shutdown | dropHandle => simp [Label.actor?] at hl

/-- A label under which a worker acts does nothing, or it is a turn of that worker. -/
theorem step_of_actor (s : Pool) {w : Nat} {l : Label} (hl : l.actor? = some w) :
    s.step l = s ∨ ∃ phase e, s.workers[w]? = some phase ∧ Turn s w l phase e ∧
      s.step l = s.apply w e := by
  cases hw : s.workers[w]? with
  | none => exact .inl (step_absent hl hw)
  | some phase =>
    obtain ⟨e, ht, he⟩ := turn_of_step hl hw
    exact .inr ⟨phase, e, rfl, ht, he⟩

/-! ### What a step leaves alone -/

/-- What a step of the outside leaves alone: it moves no worker, takes nothing from
    the client, writes no line, drops no sender, and records only what the reader does. -/
structure Outside (s : Pool) (l : Label) (t : Pool) : Prop where
  workers_eq : t.workers = s.workers
  params_eq : t.params = s.params
  lines_eq : t.lines = s.lines
  senders_eq : t.senders = s.senders
  queue_eq : t.queue = s.queue ++ l.pushed
  record_eq : ∃ new, t.record = s.record ++ new ∧
    ∀ e ∈ new, e.worker = none ∧ e.act.isReading = true

/-- A label under which no worker acts makes a step of the outside. -/
theorem step_outside {s : Pool} {l : Label} (hl : l.actor? = none) :
    Outside s l (s.step l) := by
  have hkeep {t : Pool} (hw : t.workers = s.workers) (hp : t.params = s.params)
      (hn : t.lines = s.lines) (hs : t.senders = s.senders)
      (hq : t.queue = s.queue ++ l.pushed) (hr : t.record = s.record) : Outside s l t :=
    ⟨hw, hp, hn, hs, hq, [], by simp [hr], by simp⟩
  cases l with
  | run _ | task _ _ | delete _ _ => simp [Label.actor?] at hl
  | push rs => exact hkeep rfl rfl rfl rfl rfl rfl
  | fireStop | advance _ | setTransform _ | closeErrors | dropHandle =>
    exact hkeep rfl rfl rfl rfl (List.append_nil _).symm rfl
  | readError =>
    simp only [step, readError]
    split
    · exact ⟨rfl, rfl, rfl, rfl, (List.append_nil _).symm, _, rfl, by simp [Act.isReading]⟩
    all_goals exact hkeep rfl rfl rfl rfl (List.append_nil _).symm rfl
  | dropErrors =>
    simp only [step, dropErrors]
    split
    · exact hkeep rfl rfl rfl rfl (List.append_nil _).symm rfl
    all_goals
      exact ⟨rfl, rfl, rfl, rfl, (List.append_nil _).symm, _, rfl, by simp [Act.isReading]⟩
  | join =>
    simp only [step, beginJoin]
    split <;> exact hkeep rfl rfl rfl rfl (List.append_nil _).symm rfl
  | shutdown =>
    simp only [step, shutdown]
    split
    · simp only [beginJoin, fireStop]
      split <;> exact hkeep rfl rfl rfl rfl (List.append_nil _).symm rfl
    all_goals exact hkeep rfl rfl rfl rfl (List.append_nil _).symm rfl

/-- A selection of acts that picks nothing that the reader does picks nothing of what a
    step of the outside records. -/
theorem filterMap_reading {β : Type} {f : Act → Option β}
    (hf : ∀ a, a.isReading = true → f a = none) {new : List Event}
    (hnew : ∀ event ∈ new, event.worker = none ∧ event.act.isReading = true) :
    (new.filterMap fun event => f event.act) = [] := by
  rw [List.filterMap_eq_nil_iff]
  exact fun event hmem => hf _ (hnew event hmem).2

theorem pushed_eq_nil {l : Label} {w : Nat} (hl : l.actor? = some w) : l.pushed = [] := by
  cases l with
  | push _ => cases hl
  | _ => rfl

/-- The kinds of step. -/
inductive StepKind (s : Pool) (l : Label) : Prop where
  | outside : l.actor? = none → Outside s l (s.step l) → StepKind s l
  | absent : l.pushed = [] → s.step l = s → StepKind s l
  | turn {w phase e} : l.pushed = [] → s.workers[w]? = some phase → Turn s w l phase e →
      s.step l = s.apply w e → StepKind s l

theorem stepKind (s : Pool) (l : Label) : StepKind s l := by
  cases hl : l.actor? with
  | none => exact .outside hl (step_outside hl)
  | some v =>
    have hpush : l.pushed = [] := pushed_eq_nil hl
    rcases s.step_of_actor hl with hsame | ⟨phase, e, hv, ht, he⟩
    · exact .absent hpush hsame
    · exact .turn hpush hv ht he

@[simp] theorem params_apply (s : Pool) (w : Nat) (e : Effect) :
    (s.apply w e).params = s.params := rfl

@[simp] theorem record_apply (s : Pool) (w : Nat) (e : Effect) :
    (s.apply w e).record = s.record ++ e.acts.map fun a => ⟨s.clock, some w, a⟩ := rfl

@[simp] theorem length_workers_apply (s : Pool) (w : Nat) (e : Effect) :
    (s.apply w e).workers.length = s.workers.length := by
  simp [apply]

@[simp] theorem acts_apply_self (s : Pool) (w : Nat) (e : Effect) :
    (s.apply w e).acts w = s.acts w ++ e.acts := by
  simp [acts, apply, List.filterMap_map, Function.comp_def, Event.actOf?]

theorem acts_apply_ne {s : Pool} {v w : Nat} (h : v ≠ w) (e : Effect) :
    (s.apply v e).acts w = s.acts w := by
  simp [acts, apply, List.filterMap_map, Function.comp_def, Event.actOf?, h]

theorem phase_apply_self {s : Pool} {w : Nat} {phase : Phase}
    (h : s.workers[w]? = some phase) (e : Effect) :
    (s.apply w e).workers[w]? = some e.phase := by
  have hlt : w < s.workers.length := (List.getElem?_eq_some_iff.mp h).1
  simp [apply, hlt]

theorem phase_apply_ne {s : Pool} {v w : Nat} (h : v ≠ w) (e : Effect) :
    (s.apply v e).workers[w]? = s.workers[w]? := by
  simp [apply, h]

/-- **One worker's view of a step.** Either nothing changes for the worker, or
    the step is its own turn. -/
theorem step_view (s : Pool) (l : Label) (w : Nat) :
    ((s.step l).acts w = s.acts w ∧ (s.step l).workers[w]? = s.workers[w]?) ∨
      ∃ phase e, s.workers[w]? = some phase ∧ Turn s w l phase e ∧
        s.step l = s.apply w e := by
  cases stepKind s l with
  | outside _ hout =>
    left
    obtain ⟨new, hrec, hnew⟩ := hout.record_eq
    refine ⟨?_, by rw [hout.workers_eq]⟩
    -- what the reader does has no worker
    have hnone : new.filterMap (Event.actOf? w) = [] := by
      rw [List.filterMap_eq_nil_iff]
      intro e he
      simp [Event.actOf?, (hnew e he).1]
    simp [acts, hrec, hnone]
  | absent _ hsame => exact .inl ⟨by rw [hsame], by rw [hsame]⟩
  | @turn v phase e _ hv ht he =>
    by_cases hvw : v = w
    · subst hvw
      exact .inr ⟨phase, e, hv, ht, he⟩
    · left
      rw [he]
      exact ⟨acts_apply_ne hvw e, phase_apply_ne hvw e⟩

/-- What a worker does in a step. -/
def news (s : Pool) (w : Nat) (l : Label) : List Act :=
  ((s.step l).acts w).drop (s.acts w).length

theorem acts_step (s : Pool) (w : Nat) (l : Label) :
    (s.step l).acts w = s.acts w ++ s.news w l := by
  unfold news
  rcases step_view s l w with ⟨hacts, -⟩ | ⟨phase, e, -, -, he⟩
  · simp [hacts]
  · simp [he]

/-- In a step a worker does nothing and stays where it is, or it takes a turn. -/
theorem news_view (s : Pool) (l : Label) (w : Nat) :
    (s.news w l = [] ∧ (s.step l).workers[w]? = s.workers[w]?) ∨
      ∃ phase e, s.workers[w]? = some phase ∧ Turn s w l phase e ∧
        (s.step l).workers[w]? = some e.phase ∧ s.news w l = e.acts := by
  rcases step_view s l w with ⟨hacts, hphase⟩ | ⟨phase, e, hp, ht, he⟩
  · exact .inl ⟨by simp [news, hacts], hphase⟩
  · exact .inr ⟨phase, e, hp, ht, by rw [he, phase_apply_self hp], by simp [news, he]⟩

@[simp] theorem params_step (s : Pool) (l : Label) : (s.step l).params = s.params := by
  cases stepKind s l with
  | outside _ hout => exact hout.params_eq
  | absent _ hsame => rw [hsame]
  | turn _ _ _ he => rw [he, params_apply]

@[simp] theorem length_workers_step (s : Pool) (l : Label) :
    (s.step l).workers.length = s.workers.length := by
  cases stepKind s l with
  | outside _ hout => rw [hout.workers_eq]
  | absent _ hsame => rw [hsame]
  | turn _ _ _ he => rw [he, length_workers_apply]

@[simp] theorem length_workers_run (s : Pool) (labels : List Label) :
    (s.run labels).workers.length = s.workers.length := by
  induction labels generalizing s with
  | nil => rfl
  | cons l ls ih => rw [run_cons, ih, length_workers_step]

@[simp] theorem params_run (s : Pool) (labels : List Label) :
    (s.run labels).params = s.params := by
  induction labels generalizing s with
  | nil => rfl
  | cons l ls ih => rw [run_cons, ih, params_step]

end Pool

end ConsumerPool
