import ConsumerPool.Pool.Join
import ConsumerPool.Proofs.Lockstep

/-! # Noninterference of the Error Reader

  Nothing that the reader of the error channel does, and no capacity of the
  channel, changes what the workers do or when. Two pools that differ in both
  are `Unswayed`: they agree on all but the channel, and their records agree
  once the reader and the fate of the reports are left out. A worker that
  reports goes on alike whether the report is taken or not, so the relation is
  kept along runs that differ in steps of the reader. -/

namespace ConsumerPool

variable {w : Nat}

/-! ### What is hidden from the workers -/

/-- Whether a label is a step of the reader of the error channel. -/
def Label.isReader : Label → Bool
  | .readError | .closeErrors | .dropErrors => true
  | .run _ | .task _ _ | .delete _ _ | .push _ | .fireStop | .advance _ | .setTransform _
  | .join | .shutdown | .dropHandle => false

/-- An act without the fate of reports: each counts as taken, and no line about a
    dropped error and nothing that the reader does is shown. -/
def Act.unfated? : Act → Option Act
  | .reported e _ => some (.reported e true)
  | .logged (.errorDropped _) | .errorRead _ | .errorsDiscarded _ => none
  | .logged line => some (.logged line)
  | .receiveBegun => some .receiveBegun
  | .received r => some (.received r)
  | .receiveAbandoned => some .receiveAbandoned
  | .taskBegun m => some (.taskBegun m)
  | .taskEnded m outcome => some (.taskEnded m outcome)
  | .transformed origin e => some (.transformed origin e)
  | .deleteBegun m => some (.deleteBegun m)
  | .deleteEnded m outcome => some (.deleteEnded m outcome)
  | .paused deadline => some (.paused deadline)
  | .exited => some .exited
  | .crashed p => some (.crashed p)

theorem Act.unfated?_of_isReading {a : Act} (h : a.isReading = true) : a.unfated? = none := by
  cases a with
  | errorRead _ | errorsDiscarded _ => rfl
  | _ => cases h

theorem filterMap_change?_eq {xs ys : List Act}
    (h : xs.filterMap Act.unfated? = ys.filterMap Act.unfated?) :
    xs.filterMap Act.change? = ys.filterMap Act.change? := by
  have hshown (a : Act) : a.unfated?.bind Act.change? = a.change? := by
    cases a with
    | logged line => cases line <;> rfl
    | _ => rfl
  have hchanges (zs : List Act) :
      zs.filterMap Act.change? = (zs.filterMap Act.unfated?).filterMap Act.change? := by
    simp only [List.filterMap_filterMap, hshown]
  rw [hchanges, h, ← hchanges]

namespace Pool

/-- Two pools that differ at most in the error channel, in its capacity, and in what the
    record tells of the reader and of the fate of reports. -/
structure Unswayed (s t : Pool) : Prop where
  /-- They were started alike but for the capacity. -/
  params_eq : ∃ capacity, t.params = { s.params with errorCapacity := capacity }
  stop_eq : t.stop = s.stop
  processTransform_eq : t.processTransform = s.processTransform
  queue_eq : t.queue = s.queue
  clock_eq : t.clock = s.clock
  timer_eq : t.timer = s.timer
  workers_eq : t.workers = s.workers
  handle_eq : t.handle = s.handle
  changed_eq : t.changed = s.changed
  /-- Receives, calls, deletes, reports, pauses, exits and lines are the same, by the same
      workers at the same readings of the clock and in the same order. -/
  seen_eq : t.seen Act.unfated? = s.seen Act.unfated?

/-! ### Steps of the reader -/

/-- A step of the reader changes the channel and adds to the record what it does. -/
theorem step_reader {l : Label} (hl : l.isReader = true) (s : Pool) :
    ∃ channel new, s.step l = { s with channel, record := s.record ++ new } ∧
      ∀ event ∈ new, event.act.isReading = true := by
  have hrest {t : Pool} (h : ∃ channel, t = { s with channel }) : ∃ channel new,
      t = { s with channel, record := s.record ++ new } ∧
        ∀ event ∈ new, event.act.isReading = true := by
    obtain ⟨channel, rfl⟩ := h
    exact ⟨channel, [], by simp, by simp⟩
  cases l with
  | readError =>
    simp only [step, readError]
    split
    · exact ⟨_, _, rfl, by simp [Act.isReading]⟩
    all_goals exact hrest ⟨s.channel, rfl⟩
  | closeErrors => exact hrest ⟨s.channel.close, rfl⟩
  | dropErrors =>
    simp only [step, dropErrors]
    split
    · exact hrest ⟨s.channel, rfl⟩
    all_goals exact ⟨_, _, rfl, by simp [Act.isReading]⟩
  | _ => cases hl

theorem seen_reader (s : Pool) {channel : ErrorChannel} {new : List Event}
    (h : ∀ event ∈ new, event.act.isReading = true) :
    seen Act.unfated? { s with channel, record := s.record ++ new } = s.seen Act.unfated? := by
  have hnone : new.filterMap
      (fun event => (event.act.unfated?).map fun act => { event with act }) = [] := by
    rw [List.filterMap_eq_nil_iff]
    intro event hmem
    rw [Act.unfated?_of_isReading (h event hmem)]
    rfl
  simp only [seen, List.filterMap_append, hnone, List.append_nil]

namespace Unswayed

variable {s t : Pool}

theorem reader_left (h : Unswayed s t) {l : Label} (hl : l.isReader = true) :
    Unswayed (s.step l) t := by
  obtain ⟨channel, new, hs, hnew⟩ := step_reader hl s
  rw [hs]
  exact { h with seen_eq := h.seen_eq.trans (s.seen_reader hnew).symm }

theorem reader_right (h : Unswayed s t) {l : Label} (hl : l.isReader = true) :
    Unswayed s (t.step l) := by
  obtain ⟨channel, new, ht, hnew⟩ := step_reader hl t
  rw [ht]
  exact { h with seen_eq := (t.seen_reader hnew).trans h.seen_eq }

/-! ### Steps of the workers -/

/-- With a logger that does not panic, the two pools take the same turns but for
    reports. -/
theorem alike (h : Unswayed s t) (hlog : s.params.loggerInUse.Steady) : Alike s t := by
  obtain ⟨capacity, hparams⟩ := h.params_eq
  constructor
  case delay_eq => rw [hparams]
  case transform_eq =>
    simp only [transformInForce, chosenTransform, hparams, h.processTransform_eq, h.changed_eq]
  case answer_eq =>
    intro line
    have hanswer : t.answer line = s.params.loggerInUse.panics t.lines line := by
      rw [answer, hparams]
      rfl
    rw [hanswer, hlog, answer, hlog]
  case workers_eq => exact h.workers_eq
  case stop_eq => exact h.stop_eq
  case queue_eq => exact h.queue_eq
  case clock_eq => exact h.clock_eq
  case timer_eq => exact h.timer_eq

/-- Two turns of which the workers see the same keep the pools related. -/
theorem apply (h : Unswayed s t) {e e' : Effect}
    (hacts : e'.acts.filterMap Act.unfated? = e.acts.filterMap Act.unfated?)
    (hphase : e'.phase = e.phase) (hstop : e'.stop = e.stop) (hqueue : e'.queue = e.queue) :
    Unswayed (s.apply w e) (t.apply w e') where
  params_eq := h.params_eq
  stop_eq := hstop
  processTransform_eq := h.processTransform_eq
  queue_eq := hqueue
  clock_eq := h.clock_eq
  timer_eq := h.timer_eq
  workers_eq := by simp only [Pool.apply, h.workers_eq, hphase]
  handle_eq := h.handle_eq
  changed_eq := by simp only [Pool.apply, h.changed_eq, filterMap_change?_eq hacts]
  seen_eq := by rw [seen_apply, seen_apply, h.seen_eq, h.clock_eq, hacts]

end Unswayed

/-- A worker that owes a report makes it and goes on, whatever becomes of it. -/
theorem Turn.told {s : Pool} {error : PoolError} {after : AfterReport} {e : Effect}
    (ht : Turn s w (.run w) (.reporting error after) e)
    (hw : s.workers[w]? = some (.reporting error after))
    (hlog : s.params.loggerInUse.Steady) :
    e.acts.filterMap Act.unfated? = [.reported error true] ∧
      e.phase = .afterReport after ∧ e.stop = s.stop ∧ e.queue = s.queue := by
  cases ht with
  | wait hrun => simp [canRun, hw] at hrun
  | reportTaken _ => exact ⟨rfl, rfl, rfl, rfl⟩
  | reportDropped _ =>
    have hanswer : s.answer (.errorDropped error) = none := hlog _ _
    simp only [spoken, hanswer]
    exact ⟨rfl, rfl, rfl, rfl⟩

theorem Unswayed.turn {s t : Pool} (h : Unswayed s t) (hlog : s.params.loggerInUse.Steady)
    {l : Label} (hl : l.actor? = some w) : Unswayed (s.step l) (t.step l) := by
  have halike := h.alike hlog
  cases hs : s.workers[w]? with
  | none =>
    rw [step_absent hl hs, step_absent hl (by rw [h.workers_eq, hs])]
    exact h
  | some phase =>
    have ht : t.workers[w]? = some phase := by rw [h.workers_eq, hs]
    obtain ⟨e, hturn, he⟩ := turn_of_step hl hs
    by_cases hreport : l = .run w ∧ ∃ e₀ after, phase = .reporting e₀ after
    · -- one channel may take what the other does not
      obtain ⟨rfl, e₀, after, rfl⟩ := hreport
      obtain ⟨e', hturn', he'⟩ := turn_of_step hl ht
      have hlog' : t.params.loggerInUse.Steady := by
        obtain ⟨capacity, hparams⟩ := h.params_eq
        rw [hparams]
        exact hlog
      obtain ⟨hacts, hphase, hstop, hqueue⟩ := hturn.told hs hlog
      obtain ⟨hacts', hphase', hstop', hqueue'⟩ := hturn'.told ht hlog'
      rw [he, he']
      exact h.apply (by rw [hacts, hacts']) (by rw [hphase, hphase'])
        (by rw [hstop, hstop', h.stop_eq]) (by rw [hqueue, hqueue', h.queue_eq])
    -- any other turn is one of both pools
    · obtain ⟨e', hturn', hsame⟩ := hturn.transfer halike hreport
      rw [he, hturn'.step_eq ht]
      exact h.apply (by rw [hsame.acts_eq]) hsame.phase_eq hsame.stop_eq hsame.queue_eq

/-- A step of anybody but the reader, taken by both pools, keeps them related. -/
theorem Unswayed.both {s t : Pool} (h : Unswayed s t) (hlog : s.params.loggerInUse.Steady)
    {l : Label} (hl : l.isReader = false) : Unswayed (s.step l) (t.step l) := by
  cases l with
  | run w | task w _ | delete w _ => exact h.turn hlog rfl
  -- the outside changes one part of the state, in both pools alike
  | push responses => exact { h with queue_eq := congrArg (· ++ responses) h.queue_eq }
  | fireStop => exact { h with stop_eq := rfl }
  | advance duration => exact { h with clock_eq := congrArg (· + duration) h.clock_eq }
  | setTransform f =>
    exact { h with processTransform_eq := congrArg (·.or (some f)) h.processTransform_eq }
  | dropHandle => exact { h with handle_eq := rfl }
  | join =>
    simp only [step, beginJoin, h.handle_eq]
    split
    · exact { h with handle_eq := rfl }
    all_goals exact h
  | shutdown =>
    simp only [step, shutdown, beginJoin, fireStop, h.handle_eq]
    split
    · exact { h with stop_eq := rfl, handle_eq := rfl }
    all_goals exact h
  | readError | closeErrors | dropErrors => cases hl

/-! ### The guarantee -/

/-- Pools that are started alike but for the capacity of the error channel. -/
theorem unswayed_of_running {params : PoolParams} {around : Surroundings} {capacity : Nat}
    {s t : Pool} (hlog : params.loggerInUse.Steady)
    (hs : (start params around).running? = some s)
    (ht : (start { params with errorCapacity := capacity } around).running? = some t) :
    Unswayed s t := by
  rw [running_of_steady hs hlog, running_of_steady ht hlog]
  exact ⟨⟨capacity, rfl⟩, rfl, rfl, rfl, rfl, rfl, rfl, rfl, rfl, rfl⟩

/-- **The error reader cannot influence the workers.** Two runs of a pool with a logger
    that does not panic that differ in the capacity of the error channel and in the steps
    of its reader are the same but for the fate of the reports: the record, the queue, the
    clock and all workers agree, waiting for the pool comes to the same, and the same
    workers have a step that is due. -/
theorem run_unswayed {params : PoolParams} {around : Surroundings} {capacity : Nat}
    {s t : Pool} (hlog : params.loggerInUse.Steady)
    (hs : (start params around).running? = some s)
    (ht : (start { params with errorCapacity := capacity } around).running? = some t)
    {ls ms : List Label} (h : ls.filter (!·.isReader) = ms.filter (!·.isReader)) :
    Unswayed (s.run ls) (t.run ms) ∧ (t.run ms).joinStatus = (s.run ls).joinStatus ∧
      (t.run ms).isFinished = (s.run ls).isFinished ∧
      ∀ w, (t.run ms).canRun w = (s.run ls).canRun w := by
  have hstart : s.params.loggerInUse.Steady ∧ Unswayed s t :=
    ⟨(launched_of_running hs).params_eq ▸ hlog, unswayed_of_running hlog hs ht⟩
  -- the logger is carried along, as the turns of the workers hang on it
  obtain ⟨hlog', hrun⟩ := run_related Label.isReader
    (R := fun s t => s.params.loggerInUse.Steady ∧ Unswayed s t)
    (fun hl hst => ⟨by rw [params_step]; exact hst.1, hst.2.reader_left hl⟩)
    (fun hl hst => ⟨hst.1, hst.2.reader_right hl⟩)
    (fun hl hst => ⟨by rw [params_step]; exact hst.1, hst.2.both hst.1 hl⟩) h hstart
  refine ⟨hrun, ?_, ?_, (hrun.alike hlog').canRun_eq⟩
  · rw [joinStatus, joinStatus, hrun.workers_eq]
  · rw [isFinished, isFinished, hrun.workers_eq]

def failureThenMessage : List Response :=
  [⟨.failed (.receive "down"), false⟩, ⟨.messages [default], false⟩]

/-- The first worker meets a receive that fails and a task that fails, with steps of the
    reader at first and between the two. -/
def failTwice (before between : List Label) : List Label :=
  before ++ [.run 0, .run 0, .run 0, .run 0] ++ between ++
    [.run 0, .run 0, .run 0, .run 0, .run 0, .task 0 (.finish (.failed (.generic "bad"))),
      .run 0]

def widePair (queue : List Response) : Pool :=
  { pair queue with
    params := { PoolParams.pair with errorCapacity := 2 }
    channel := .ofCapacity 2 }

theorem widePair_running (queue : List Response) :
    (start { PoolParams.pair with errorCapacity := 2 } { queue }).running? =
      some (widePair queue) := rfl

/-- A reader that closes its end of a channel for one error loses both errors; one that
    reads from a channel for two errors gets the first and has the second unread. -/
theorem run_unswayed_pair :
    PoolParams.pair.loggerInUse.Steady ∧
    (start .pair { queue := failureThenMessage }).running? = some (pair failureThenMessage) ∧
    (start { PoolParams.pair with errorCapacity := 2 }
      { queue := failureThenMessage }).running? = some (widePair failureThenMessage) ∧
    (failTwice [.closeErrors] []).filter (!·.isReader) =
      (failTwice [] [.readError]).filter (!·.isReader) ∧
    Unswayed ((pair failureThenMessage).run (failTwice [.closeErrors] []))
      ((widePair failureThenMessage).run (failTwice [] [.readError])) ∧
    ((pair failureThenMessage).run (failTwice [.closeErrors] [])).channel =
      ⟨1, [], .closed, 2⟩ ∧
    ((widePair failureThenMessage).run (failTwice [] [.readError])).channel =
      ⟨2, [.task "" (.generic "bad")], .listening, 0⟩ := by
  have hlog : PoolParams.pair.loggerInUse.Steady := fun _ _ => rfl
  have hlabels : (failTwice [.closeErrors] []).filter (!·.isReader) =
      (failTwice [] [.readError]).filter (!·.isReader) := rfl
  have hrun := run_unswayed hlog (pair_running failureThenMessage)
    (widePair_running failureThenMessage) hlabels
  exact ⟨hlog, pair_running _, widePair_running _, hlabels, hrun.1, by decide, by decide⟩

end Pool

end ConsumerPool
