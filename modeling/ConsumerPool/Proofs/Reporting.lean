import ConsumerPool.Proofs.Handling

/-! # Reporting

  Each failure of a worker is reported once, as it was, and before the next
  receive; nothing else is reported. A failure is a receive or a task that
  returns an error, or a task that panics. What a panic is reported as depends
  on the transform in force at that moment, so a run is traced with it. -/

namespace ConsumerPool

variable {logger : Logger} {w : Nat}

/-! ### Failures -/

/-- What the transform in force makes of a recovered error: nothing if it panics. -/
def remade (force : Option (Origin × Change)) (e : TaskError) : Option TaskError :=
  match force with
  | none => some e
  | some (_, t) => (t e).toOption

namespace Act

/-- The error that is to be reported for an act under the transform in force. A task that
    throws what cannot be disposed of leaves none. -/
def failure? (force : Option (Origin × Change)) : Act → Option PoolError
  | .received (.failed e) => some e
  | .taskEnded m (.failed source) => some (.task (m.id.getD "") source)
  | .taskEnded m (.panicked (.plain (.error e))) =>
      (remade force e).map (.task (m.id.getD ""))
  | .taskEnded m (.panicked (.plain (.text t))) =>
      (remade force (.panicked t)).map (.task (m.id.getD ""))
  | .taskEnded m (.panicked (.plain (.boxed _))) | .taskEnded m (.panicked (.plain .other)) =>
      (remade force (.panicked "non-string panic payload")).map (.task (m.id.getD ""))
  | _ => none

def transform? : Act → Option (Origin × TaskError)
  | .transformed origin e => some (origin, e)
  | _ => none

/-- The call of a transform that is due for an act: a recovered panic calls the one in
    force. -/
def recovery? (force : Option (Origin × Change)) : Act → Option (Origin × TaskError)
  | .taskEnded _ (.panicked (.plain p)) => force.map fun inForce => (inForce.1, p.recovered)
  | _ => none

/-- Every payload is reported as what the transform in force makes of its error. -/
theorem failure?_panicked (force : Option (Origin × Change)) (m : Message) (p : Payload) :
    (Act.taskEnded m (.panicked (.plain p))).failure? force =
      (remade force p.recovered).map (.task m.shownId) := by
  cases p <;> rfl

theorem failure?_transformed (force : Option (Origin × Change)) (origin : Origin)
    (e : TaskError) : (Act.transformed origin e).failure? force = none := rfl

theorem failure?_crashed (force : Option (Origin × Change)) (p : Payload) :
    (Act.crashed p).failure? force = none := rfl

end Act

/-- The error that a worker is to report in a phase. -/
def Phase.owed : Phase → List PoolError
  | .reporting e _ => [e]
  | _ => []

namespace Pool

/-! ### Traces -/

/-- What a worker does along a run, each act with the transform in force then. -/
def trace (s : Pool) (w : Nat) : List Label → List (Option (Origin × Change) × Act)
  | [] => []
  | l :: ls => (s.news w l).map (Prod.mk s.transformInForce) ++ (s.step l).trace w ls

theorem acts_run (s : Pool) (w : Nat) (labels : List Label) :
    (s.run labels).acts w = s.acts w ++ (s.trace w labels).map Prod.snd := by
  induction labels generalizing s with
  | nil => simp [trace]
  | cons l ls ih =>
    rw [run_cons, ih, acts_step]
    simp [trace, Function.comp_def]

/-- What a selection picks from the first step of a trace and from the rest. -/
theorem filterMap_trace_cons {α : Type} (f : Option (Origin × Change) × Act → Option α)
    (s : Pool) (w : Nat) (l : Label) (ls : List Label) :
    (s.trace w (l :: ls)).filterMap f =
      (s.news w l).filterMap (fun a => f (s.transformInForce, a)) ++
        ((s.step l).trace w ls).filterMap f := by
  rw [trace, List.filterMap_append, List.filterMap_map]
  rfl

theorem filterMap_acts_trace_cons {α : Type} (f : Act → Option α) (s : Pool) (w : Nat)
    (l : Label) (ls : List Label) :
    ((s.trace w (l :: ls)).map Prod.snd).filterMap f =
      (s.news w l).filterMap f ++ (((s.step l).trace w ls).map Prod.snd).filterMap f := by
  simp [trace, Function.comp_def]

def failures (trace : List (Option (Origin × Change) × Act)) : List PoolError :=
  trace.filterMap fun x => x.2.failure? x.1

/-- The calls of a transform that are due for what a trace shows. -/
def recoveries (trace : List (Option (Origin × Change) × Act)) :
    List (Origin × TaskError) :=
  trace.filterMap fun x => x.2.recovery? x.1

/-- The error that a worker is to report. -/
def owed (s : Pool) (w : Nat) : List PoolError :=
  ((s.workers[w]?).map Phase.owed).getD []

/-! ### Reports match failures -/

theorem Turn.reports {s : Pool} {l : Label} {phase : Phase} {e : Effect}
    (ht : Turn s w l phase e) :
    phase.owed ++ e.acts.filterMap (Act.failure? s.transformInForce) =
      e.acts.filterMap Act.report? ++ e.phase.owed := by
  cases ht with
  | start | call | logFailure | complete | leave =>
    simp only [spoken]
    split <;> rfl
  | @reportDropped _ after _ =>
    -- the report is made before the line that may panic
    simp only [spoken]
    split
    · cases after <;> rfl
    · rfl
  | @reportTaken _ after _ => cases after <;> rfl
  | @taskPanicked m p hf =>
    simp [effect, List.filterMap_cons, Act.failure?_panicked, hf, remade, Phase.owed,
      Act.report?]
  | @taskRecovered m p origin t source hf ht | @taskLost m p origin t source hf ht =>
    simp [effect, List.filterMap_cons, Act.failure?_panicked, hf, remade, ht,
      Except.toOption, Act.failure?_transformed, Act.failure?_crashed, Phase.owed,
      Act.report?]
  | wait _ | noTask _ | noDelete _ => simp [effect]
  | _ => rfl

/-- Along a run the reports are the failures, in order, but for the last one if it is
    still to be reported. -/
theorem reports_run (s : Pool) (labels : List Label) :
    s.owed w ++ failures (s.trace w labels) =
      ((s.trace w labels).map Prod.snd).filterMap Act.report? ++ (s.run labels).owed w := by
  -- what is owed carries over from each step to the next
  induction labels generalizing s with
  | nil => simp [failures, trace]
  | cons l ls ih =>
    have hstep : s.owed w ++ (s.news w l).filterMap (Act.failure? s.transformInForce) =
        (s.news w l).filterMap Act.report? ++ (s.step l).owed w := by
      rcases news_view s l w with ⟨hnews, hphase⟩ | ⟨phase, e, hp, ht, hphase, hnews⟩
      · simp [hnews, owed, hphase]
      · simpa [hnews, owed, hphase, hp] using ht.reports
    have hcons : failures (s.trace w (l :: ls)) =
        (s.news w l).filterMap (Act.failure? s.transformInForce) ++
          failures ((s.step l).trace w ls) := filterMap_trace_cons _ s w l ls
    rw [hcons, filterMap_acts_trace_cons, run_cons]
    exact balance_append hstep (ih _)

/-- A turn calls the transform in force on each panic, and never else. -/
theorem Turn.transforms {s : Pool} {l : Label} {phase : Phase} {e : Effect}
    (ht : Turn s w l phase e) :
    e.acts.filterMap Act.transform? =
      e.acts.filterMap (Act.recovery? s.transformInForce) := by
  cases ht with
  | start | call | logFailure | complete | leave | reportDropped _ =>
    simp only [spoken]
    split <;> rfl
  | taskPanicked hf | taskRecovered hf _ | taskLost hf _ =>
    rw [hf]
    rfl
  | _ => rfl

theorem transforms_run (s : Pool) (labels : List Label) :
    ((s.trace w labels).map Prod.snd).filterMap Act.transform? =
      recoveries (s.trace w labels) := by
  induction labels generalizing s with
  | nil => rfl
  | cons l ls ih =>
    have hstep : (s.news w l).filterMap Act.transform? =
        (s.news w l).filterMap (Act.recovery? s.transformInForce) := by
      rcases news_view s l w with ⟨hnews, -⟩ | ⟨phase, e, -, ht, -, hnews⟩
      · simp [hnews]
      · rw [hnews]
        exact ht.transforms
    have hcons : recoveries (s.trace w (l :: ls)) =
        (s.news w l).filterMap (Act.recovery? s.transformInForce) ++
          recoveries ((s.step l).trace w ls) := filterMap_trace_cons _ s w l ls
    rw [hcons, filterMap_acts_trace_cons, hstep, ih]

/-! ### When a report is made -/

/-- A worker that begins a receive or exits owes no report. -/
theorem Turn.owes_nothing {s : Pool} {l : Label} {phase : Phase} {e : Effect}
    (ht : Turn s w l phase e) (h : .receiveBegun ∈ e.acts ∨ .exited ∈ e.acts) :
    phase.owed = [] := by
  cases ht with
  | wait _ | noTask _ | noDelete _ | reportTaken _ => simp [effect] at h
  | reportDropped _ =>
    simp only [spoken] at h
    split at h <;> simp [effect] at h
  | _ => rfl

/-- The next step of a worker that owes a report makes it. -/
theorem report_due {s : Pool} {e : PoolError} (h : s.owed w = [e]) :
    ∃ taken rest, s.news w (.run w) = .reported e taken :: rest := by
  unfold owed at h
  cases hw : s.workers[w]? with
  | none => simp [hw] at h
  | some phase =>
    obtain ⟨after, rfl⟩ : ∃ after, phase = .reporting e after := by
      rw [hw] at h
      cases phase <;> simp_all [Phase.owed]
    obtain ⟨effect, ht, he⟩ := turn_of_step (l := .run w) rfl hw
    have hnews : s.news w (.run w) = effect.acts := by
      simp [news, he]
    rw [hnews]
    cases ht with
    | wait hrun => simp [canRun, hw] at hrun
    | reportTaken _ => exact ⟨true, [], rfl⟩
    | reportDropped _ =>
      simp only [spoken]
      split
      · exact ⟨false, _, rfl⟩
      · exact ⟨false, _, rfl⟩

/-! ### The guarantee -/

/-- What a worker does after a failure: it reports it at once, as long as it goes on, and
    reports nothing more before the next receive. -/
def ReportsNext (s : Pool) (w : Nat) (e : PoolError) (post : List Act) : Prop :=
  (post = [] ∧ s.owed w = [e]) ∨
    ∃ taken rest, post = .reported e taken :: rest ∧
      (untilReceive rest).filterMap Act.report? = []

/-- The reports of a worker are its failures. -/
structure Reports (s : Pool) (w : Nat)
    (trace : List (Option (Origin × Change) × Act)) : Prop where
  /-- The trace shows what the worker has done. -/
  traced : trace.map Prod.snd = s.acts w
  /-- Each failure is reported once, in order, and nothing else is; only the last one can
      be still to be reported. -/
  exactlyOnce : (s.acts w).filterMap Act.report? ++ s.owed w = failures trace
  /-- A failure still to be reported is reported by the worker's next step. -/
  due : ∀ e, s.owed w = [e] → ∃ taken rest, s.news w (.run w) = .reported e taken :: rest
  /-- When a worker begins a receive or exits, all failures are reported. -/
  inTime : ∀ l, .receiveBegun ∈ s.news w l ∨ .exited ∈ s.news w l →
    (s.acts w).filterMap Act.report? = failures trace
  /-- A receive that returns an error is reported with this error. -/
  receive : ∀ pre e post, s.acts w = pre ++ .received (.failed e) :: post →
    ReportsNext s w e post
  /-- A task that returns an error is reported with this error and its message. -/
  task : ∀ pre m source post, s.acts w = pre ++ .taskEnded m (.failed source) :: post →
    ReportsNext s w (.task (m.id.getD "") source) post
  /-- A task that panics is reported once, after at most one call of a transform, unless
      that panics too and ends the worker. -/
  panic : ∀ pre m p post, s.acts w = pre ++ .taskEnded m (.panicked (.plain p)) :: post →
    (ReportsNext s w (.task (m.id.getD "") p.recovered) post) ∨
      ∃ origin rest, post = .transformed origin p.recovered :: rest ∧
        ((∃ source, ReportsNext s w (.task (m.id.getD "") source) rest) ∨
          ∃ q, rest = [.crashed q])
  /-- A task that throws what cannot be disposed of is not reported: its worker ends. -/
  undisposed : ∀ pre m q post,
    s.acts w = pre ++ .taskEnded m (.panicked (.fragile q)) :: post → post = [.crashed q]
  /-- The transform in force is called once on each recovered error, and never else. -/
  transforms : (s.acts w).filterMap Act.transform? = recoveries trace
  /-- A task ends on the message that was received last. -/
  message : ∀ pre m outcome post, s.acts w = pre ++ .taskEnded m outcome :: post →
    ∃ before ms, pre = before ++ [.received (.messages (m :: ms)),
      .logged (.processing m.shownId), .taskBegun m]

theorem At.reportsNext {s : Pool} {stage : Stage} {phase : Phase} (h : s.At w stage phase)
    {e : PoolError} {after : AfterReport} {post : List Act}
    (hpost : Follows s.params.loggerInUse w (.owing e after) post stage) :
    ReportsNext s w e post := by
  cases hpost.told with
  | due =>
    cases h.shows
    exact .inl ⟨rfl, by simp [owed, h.phase_eq, Phase.owed]⟩
  | made hb hrest => exact .inr ⟨_, _, rfl, hrest.select_quiet hb Act.report?_quiet⟩

/-- **Exactly-once reporting.** In every run of every pool that a start leaves, the
    reports of each worker are its failures, as they were and in order. -/
theorem run_reports {params : PoolParams} {around : Surroundings} {s : Pool}
    (hs : (start params around).running? = some s) (hw : w < params.workerCount)
    (labels : List Label) : Reports (s.run labels) w (s.trace w labels) := by
  have hl := launched_of_running hs
  obtain ⟨stage, phase, h⟩ := run_follows hl hw labels
  have htraced : (s.trace w labels).map Prod.snd = (s.run labels).acts w := by
    rw [acts_run, hl.acts_eq_nil, List.nil_append]
  -- a pool that has just been started owes nothing, so the balance is that of the whole run
  have honce : ((s.run labels).acts w).filterMap Act.report? ++ (s.run labels).owed w =
      failures (s.trace w labels) := by
    have howed : s.owed w = [] := by
      simp [owed, hl.workers_eq, List.getElem?_replicate_of_lt hw, Phase.owed]
    rw [← htraced, ← reports_run, howed, List.nil_append]
  constructor
  case traced => exact htraced
  case exactlyOnce => exact honce
  case due => exact fun e he => report_due he
  case inTime =>
    intro l hnews
    rcases news_view (s.run labels) l w with ⟨hnil, -⟩ | ⟨phase', e, hp, ht, -, heq⟩
    · simp [hnil] at hnews
    · rw [heq] at hnews
      have howed : (s.run labels).owed w = [] := by
        simp [owed, hp, ht.owes_nothing hnews]
      rw [← honce, howed, List.append_nil]
  case receive =>
    intro pre e post hx
    obtain ⟨a, b, -, hnext, hpost⟩ := h.around hx
    cases hnext
    exact h.reportsNext hpost
  case task =>
    intro pre m source post hx
    obtain ⟨a, b, -, hnext, hpost⟩ := h.around hx
    cases hnext
    exact h.reportsNext hpost
  case panic =>
    intro pre m p post hx
    obtain ⟨a, b, -, hnext, hpost⟩ := h.around hx
    obtain rfl : a = .inTask m := by cases hnext <;> rfl
    cases (Follows.cons hnext hpost).ran h.shows with
    | panicked ho => exact .inl (h.reportsNext ho)
    | transformed ho => exact .inr ⟨_, _, rfl, .inl ⟨_, h.reportsNext ho⟩⟩
    | lost => exact .inr ⟨_, _, rfl, .inr ⟨_, rfl⟩⟩
  case undisposed =>
    intro pre m q post hx
    obtain ⟨a, b, -, hnext, hpost⟩ := h.around hx
    obtain rfl : a = .inTask m := by
      cases hnext
      rfl
    cases (Follows.cons hnext hpost).ran h.shows with
    | undisposed => rfl
  case transforms => rw [← htraced, transforms_run]
  case message =>
    intro pre m outcome post hx
    obtain ⟨a, b, hpre, hnext, -⟩ := h.around hx
    obtain rfl : a = .inTask m := by cases hnext <;> rfl
    exact hpre.before_inTask

/-- A receive that fails, then a task that panics on a message without an id after a
    transform was set; the second report finds no room. -/
theorem run_reports_pair :
    (start .pair { queue :=
        [⟨.failed (.receive "down"), false⟩, ⟨.messages [default], false⟩] }).running? =
      some (pair [⟨.failed (.receive "down"), false⟩, ⟨.messages [default], false⟩]) ∧
    0 < PoolParams.pair.workerCount ∧
    Reports
      ((pair [⟨.failed (.receive "down"), false⟩, ⟨.messages [default], false⟩]).run
        [.run 0, .run 0, .run 0, .run 0, .run 0, .run 0, .run 0, .run 0, .run 0,
          .setTransform (.always fun e => .ok (.pool (.task "7" e))),
          .task 0 (.finish (.panicked (.plain (.text "boom")))), .fireStop, .run 0]) 0
      ((pair [⟨.failed (.receive "down"), false⟩, ⟨.messages [default], false⟩]).trace 0
        [.run 0, .run 0, .run 0, .run 0, .run 0, .run 0, .run 0, .run 0, .run 0,
          .setTransform (.always fun e => .ok (.pool (.task "7" e))),
          .task 0 (.finish (.panicked (.plain (.text "boom")))), .fireStop, .run 0]) ∧
    ((pair [⟨.failed (.receive "down"), false⟩, ⟨.messages [default], false⟩]).run
        [.run 0, .run 0, .run 0, .run 0, .run 0, .run 0, .run 0, .run 0, .run 0,
          .setTransform (.always fun e => .ok (.pool (.task "7" e))),
          .task 0 (.finish (.panicked (.plain (.text "boom")))), .fireStop, .run 0]).acts 0 =
      [.logged (.workerStarted 0), .receiveBegun, .received (.failed (.receive "down")),
        .reported (.receive "down") true, .receiveBegun, .received (.messages [default]),
        .logged (.processing ""), .taskBegun default,
        .taskEnded default (.panicked (.plain (.text "boom"))),
        .transformed .process (.panicked "boom"),
        .reported (.task "" (.pool (.task "7" (.panicked "boom")))) false,
        .logged (.errorDropped (.task "" (.pool (.task "7" (.panicked "boom")))))] :=
  ⟨rfl, by decide, run_reports (pair_running _) (by decide) _, by decide⟩

/-- **Not every failure is reported.** A worker that disposes of what its task has thrown
    ends without a report if that panics, though neither the logger nor a transform does. -/
theorem undisposed_not_reported : ¬ ∀ (params : PoolParams) (around : Surroundings) (s : Pool)
    (w : Nat) (labels : List Label), (start params around).running? = some s →
      params.loggerInUse.Steady → (s.run labels).chosenTransform = none →
      ∀ pre m thrown post,
        (s.run labels).acts w = pre ++ .taskEnded m (.panicked thrown) :: post →
        ∃ source, ReportsNext (s.run labels) w (.task (m.id.getD "") source) post := by
  intro h
  have hacts : ((pair [⟨.messages [default], false⟩]).run
      [.run 0, .run 0, .run 0, .run 0, .task 0 (.finish (.panicked (.fragile .other)))]).acts 0 =
        [.logged (.workerStarted 0), .receiveBegun, .received (.messages [default]),
          .logged (.processing ""), .taskBegun default] ++
        .taskEnded default (.panicked (.fragile .other)) :: [.crashed .other] := by decide
  obtain ⟨source, hreports⟩ :=
    h .pair _ _ 0 _ (pair_running _) (fun _ _ => rfl) rfl _ _ _ _ hacts
  rcases hreports with ⟨hnil, -⟩ | ⟨taken, rest, hpost, -⟩
  · cases hnil
  · cases hpost

end Pool

end ConsumerPool
