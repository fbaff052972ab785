import ConsumerPool.Proofs.Conservation
import ConsumerPool.Proofs.Delivery
import ConsumerPool.Proofs.Reporting
import Mathlib.Data.List.Perm.Basic

/-! # Independence of the Schedule

  What a pool has done in the end hangs neither on how many workers share the
  work nor on the order in which they act. If foreign code goes by its arguments
  alone, each response is worth the same deeds whoever handles it. The ledger of
  a pool holds the deeds that are done, those that workers still owe, and those
  due for what the client holds; every step keeps it but for the order, so a run
  that leaves nothing owed and nothing due has done what its responses are worth. -/

namespace ConsumerPool

variable {w : Nat}

/-! ### Deeds -/

namespace Act

/-- The line at the level of errors that is written. -/
def errorLine? : Act → Option LogLine
  | .logged line => if line.level = .error then some line else none
  | _ => none

/-- The deed that an act is, if it is one: a call of the task or of delete, a report,
    taken or not, or a line at the level of errors. -/
def deed? : Act → Option Act
  | .taskBegun m => some (.taskBegun m)
  | .deleteBegun m => some (.deleteBegun m)
  | .reported e _ => some (.reported e true)
  | .logged line => if line.level = .error then some (.logged line) else none
  | .receiveBegun | .received _ | .receiveAbandoned | .taskEnded _ _ | .transformed _ _
  | .deleteEnded _ _ | .paused _ | .exited | .crashed _ | .errorRead _
  | .errorsDiscarded _ => none

/-! What is selected of acts by these four is selected of the deeds among them. -/

theorem deed?_bind_call? (a : Act) : a.deed?.bind call? = a.call? := by
  cases a with
  | logged line => cases line <;> rfl
  | _ => rfl

theorem deed?_bind_delete? (a : Act) : a.deed?.bind delete? = a.delete? := by
  cases a with
  | logged line => cases line <;> rfl
  | _ => rfl

theorem deed?_bind_report? (a : Act) : a.deed?.bind report? = a.report? := by
  cases a with
  | logged line => cases line <;> rfl
  | _ => rfl

theorem deed?_bind_errorLine? (a : Act) : a.deed?.bind errorLine? = a.errorLine? := by
  cases a with
  | logged line => cases line <;> rfl
  | _ => rfl

end Act

/-- The message that a response hands over: the first one counts. -/
def Received.head? : Received → Option Message
  | .messages (m :: _) => some m
  | .messages [] | .failed _ | .panicked _ => none

/-- Whether a worker is busy with a message or an error. -/
def Phase.busy : Phase → Bool
  | .holding _ | .inTask _ | .reporting _ _ | .deleting _ | .deleteFailed _ _ => true
  | .spawned | .polling | .receiving | .finishing _ | .idling | .yielding | .pausing _
  | .leaving | .stopped | .crashed _ => false

/-! ### Conduct -/

/-- Foreign code that goes by its arguments alone. -/
structure Conduct where
  /-- How the task ends on a message; what it throws is disposed of without a panic. -/
  task : Message → Outcome TaskError
  /-- The error that the delete of a message returns, if it does. -/
  delete : Message → Option PoolError
  /-- What the error recovered from a panic is reported as. -/
  recover : TaskError → TaskError

namespace Conduct

variable (c : Conduct)

/-- Whether an act under the transform in force is in accordance with a conduct: calls end
    as it says, and neither a delete nor a transform nor a disposal panics. -/
def allows (force : Option (Origin × Change)) : Act → Bool
  | .taskEnded m (.panicked (.plain p)) => c.task m = .panicked p ∧
      remade force p.recovered = some (c.recover p.recovered)
  | .taskEnded _ (.panicked (.fragile _)) => false
  | .taskEnded m .ok => c.task m = .ok
  | .taskEnded m (.failed source) => c.task m = .failed source
  | .deleteEnded m .ok => c.delete m = none
  | .deleteEnded m (.failed e) => c.delete m = some e
  | .deleteEnded _ (.panicked _) => false
  | _ => true

/-- Whether the task returns on a message without an error. -/
def succeeds (m : Message) : Bool := c.task m = .ok

/-- The error that is reported for a message, if its task fails. -/
def failure? (m : Message) : Option PoolError :=
  match c.task m with
  | .ok => none
  | .failed source => some (.task m.shownId source)
  | .panicked p => some (.task m.shownId (c.recover p.recovered))

def report? : Received → Option PoolError
  | .messages (m :: _) => c.failure? m
  | .failed e => some e
  | .messages [] | .panicked _ => none

/-- The message that is deleted for a response, if its task succeeds. -/
def delete? (r : Received) : Option Message := r.head?.filter c.succeeds

/-- The line that is written for a response, if its message cannot be deleted. -/
def errorLine? (r : Received) : Option LogLine :=
  (c.delete? r).bind fun m => (c.delete m).map (.deleteFailed m.shownId)

/-! ### What is owed and due -/

/-- The deeds after a delete of a message is called. -/
def afterDelete (m : Message) : List Act :=
  match c.delete m with
  | none => []
  | some e => [.logged (.deleteFailed m.shownId e)]

/-- The deeds after the task is called on a message. -/
def afterCall (m : Message) : List Act :=
  match c.failure? m with
  | none => .deleteBegun m :: c.afterDelete m
  | some e => [.reported e true]

/-- The deeds that a response is worth. -/
def due : Received → List Act
  | .messages (m :: _) => .taskBegun m :: c.afterCall m
  | .failed e => [.reported e true]
  | .messages [] | .panicked _ => []

/-- The deeds that a worker in a phase still owes. -/
def owes : Phase → List Act
  | .holding m => .taskBegun m :: c.afterCall m
  | .inTask m => c.afterCall m
  | .reporting e _ => [.reported e true]
  | .deleting m => c.afterDelete m
  | .deleteFailed m e => [.logged (.deleteFailed m.shownId e)]
  | .spawned | .polling | .receiving | .finishing _ | .idling | .yielding | .pausing _
  | .leaving | .stopped | .crashed _ => []

/-- The deeds done, owed and due in a pool. -/
def ledger (s : Pool) : List Act :=
  s.history.filterMap Act.deed? ++ s.workers.flatMap c.owes ++
    (s.queue.map Response.received).flatMap c.due

/-- A task succeeds if it has nothing to report. -/
theorem succeeds_eq (m : Message) : c.succeeds m = (c.failure? m).isNone := by
  unfold succeeds failure?
  cases c.task m <;> rfl

theorem due_eq (r : Received) : c.due r =
    r.head?.toList.map .taskBegun ++ (c.report? r).toList.map (.reported · true) ++
      (c.delete? r).toList.map .deleteBegun ++ (c.errorLine? r).toList.map .logged := by
  cases r with
  | messages ms =>
    cases ms with
    | nil => rfl
    | cons m ms =>
      -- either the task fails, or the message is deleted
      cases hfail : c.failure? m with
      | some e =>
        simp [due, afterCall, report?, delete?, errorLine?, Received.head?, succeeds_eq, hfail]
      | none =>
        cases hdelete : c.delete m <;>
          simp [due, afterCall, afterDelete, report?, delete?, errorLine?, Received.head?,
            Option.filter, succeeds_eq, hfail, hdelete]
  | failed _ | panicked _ => rfl

theorem level_of_errorLine? {r : Received} {line : LogLine}
    (h : c.errorLine? r = some line) : line.level = .error := by
  obtain ⟨m, -, hm⟩ := Option.bind_eq_some_iff.mp h
  obtain ⟨e, -, rfl⟩ := Option.map_eq_some_iff.mp hm
  rfl

theorem owes_inTask_of_failure {m : Message} {e : PoolError} (h : c.failure? m = some e) :
    c.owes (.inTask m) = [.reported e true] := by
  simp only [owes, afterCall, h]

theorem owes_inTask_of_success {m : Message} (h : c.failure? m = none) :
    c.owes (.inTask m) = .deleteBegun m :: c.owes (.deleting m) := by
  simp only [owes, afterCall, h]

theorem owes_eq_nil {phase : Phase} (h : phase.busy = false) : c.owes phase = [] := by
  cases phase with
  | holding _ | inTask _ | reporting _ _ | deleting _ | deleteFailed _ _ => cases h
  | _ => rfl

end Conduct

namespace Pool

/-! ### Turns keep the ledger -/

variable {c : Conduct}

/-- A turn does of what its worker owes, and of what is due for what it receives, what it
    does not leave owed. -/
theorem Turn.pays {s : Pool} {l : Label} {phase : Phase} {e : Effect}
    (ht : Turn s w l phase e) (hlog : s.params.loggerInUse.Steady)
    (hc : ∀ a ∈ e.acts, c.allows s.transformInForce a = true) :
    c.owes phase ++ (e.acts.filterMap Act.received?).flatMap c.due =
      e.acts.filterMap Act.deed? ++ c.owes e.phase := by
  have hspoken (first : List Act) (line : LogLine) (acts : List Act) (phase : Phase) :
      s.spoken first line acts phase = s.effect (first ++ .logged line :: acts) phase := by
    simp only [spoken, answer, hlog _ _]
  cases ht with
  | start | complete | leave | logFailure =>
    rw [hspoken]
    rfl
  | call =>
    rw [hspoken]
    simp [effect, List.filterMap_cons, Act.received?, Act.deed?, LogLine.level, Conduct.owes]
  | @reportTaken _ after _ => cases after <;> rfl
  | @reportDropped _ after _ =>
    rw [hspoken]
    cases after <;> rfl
  | @taskOk m =>
    have htask : c.task m = .ok := by
      simpa [Conduct.allows] using hc (.taskEnded m .ok) (by simp [effect])
    have hfail : c.failure? m = none := by rw [Conduct.failure?, htask]
    rw [c.owes_inTask_of_success hfail]
    exact List.append_nil _
  | @taskFailed m source =>
    have htask : c.task m = .failed source := by
      simpa [Conduct.allows] using hc (.taskEnded m (.failed source)) (by simp [effect])
    have hfail : c.failure? m = some (.task m.shownId source) := by
      rw [Conduct.failure?, htask]
    rw [c.owes_inTask_of_failure hfail]
    rfl
  | @taskPanicked m p hf =>
    obtain ⟨htask, hrecover⟩ : c.task m = .panicked p ∧
        p.recovered = c.recover p.recovered := by
      simpa [Conduct.allows, remade, hf] using
        hc (.taskEnded m (.panicked (.plain p))) (by simp [effect])
    have hfail : c.failure? m = some (.task m.shownId p.recovered) := by
      simp only [Conduct.failure?, htask, ← hrecover]
    rw [c.owes_inTask_of_failure hfail]
    rfl
  | @taskRecovered m p origin t source hf ht =>
    obtain ⟨htask, hrecover⟩ : c.task m = .panicked p ∧ source = c.recover p.recovered := by
      simpa [Conduct.allows, remade, hf, ht, Except.toOption] using
        hc (.taskEnded m (.panicked (.plain p))) (by simp [effect])
    have hfail : c.failure? m = some (.task m.shownId source) := by
      simp only [Conduct.failure?, htask, hrecover]
    rw [c.owes_inTask_of_failure hfail]
    rfl
  | @taskLost m p origin t q hf ht =>
    -- a transform that panics is in accordance with no conduct
    have hpanic := hc (.taskEnded m (.panicked (.plain p))) (by simp [effect])
    simp [Conduct.allows, remade, hf, ht, Except.toOption] at hpanic
  | @disposalPanicked m q =>
    have hpanic := hc (.taskEnded m (.panicked (.fragile q))) (by simp [effect])
    cases hpanic
  | @deleteOk m =>
    have hdelete : c.delete m = none := by
      simpa [Conduct.allows] using hc (.deleteEnded m .ok) (by simp [effect])
    have howes : c.owes (.deleting m) = [] := by
      simp only [Conduct.owes, Conduct.afterDelete, hdelete]
    rw [howes]
    rfl
  | @deleteFailed m e =>
    have hdelete : c.delete m = some e := by
      simpa [Conduct.allows] using hc (.deleteEnded m (.failed e)) (by simp [effect])
    have howes : c.owes (.deleting m) = [.logged (.deleteFailed m.shownId e)] := by
      simp only [Conduct.owes, Conduct.afterDelete, hdelete]
    rw [howes]
    rfl
  | @deletePanicked m p =>
    have hpanic := hc (.deleteEnded m (.panicked p)) (by simp [effect])
    cases hpanic
  | wait _ | noTask _ | noDelete _ => simp [effect]
  | _ =>
    simp [effect, List.filterMap_cons, Act.received?, Act.deed?, Conduct.owes, Conduct.due]

/-! ### Steps and runs keep the ledger -/

/-- What the workers owe is what one of them owes and what the others do. -/
theorem count_owed {s : Pool} {phase : Phase} (hw : s.workers[w]? = some phase) (a : Act) :
    (s.workers.flatMap c.owes).count a =
      (c.owes phase).count a + ((s.workers.eraseIdx w).flatMap c.owes).count a := by
  obtain ⟨hlt, rfl⟩ := List.getElem?_eq_some_iff.mp hw
  have hperm := (List.getElem_cons_eraseIdx_perm hlt).flatMap_right c.owes
  rw [← hperm.count_eq, List.flatMap_cons, List.count_append]

theorem count_owed_apply {s : Pool} {phase : Phase} (hw : s.workers[w]? = some phase)
    (e : Effect) (a : Act) : ((s.apply w e).workers.flatMap c.owes).count a =
      (c.owes e.phase).count a + ((s.workers.eraseIdx w).flatMap c.owes).count a := by
  have hlt := (List.getElem?_eq_some_iff.mp hw).1
  have hperm := (List.set_perm_cons_eraseIdx hlt e.phase).flatMap_right c.owes
  rw [apply, hperm.count_eq, List.flatMap_cons, List.count_append]

/-- A step keeps the ledger but for the order, and adds to it what is due for the responses
    that arrive. -/
theorem step_ledger {s : Pool} {l : Label} (hlog : s.params.loggerInUse.Steady)
    (hc : ∀ w < s.workers.length, ∀ a ∈ s.news w l,
      c.allows s.transformInForce a = true) :
    (c.ledger (s.step l)).Perm
      (c.ledger s ++ (l.pushed.map Response.received).flatMap c.due) := by
  cases stepKind s l with
  | outside _ hout =>
    obtain ⟨new, hrec, hnew⟩ := hout.record_eq
    -- the reader does no deed
    have hnone : (new.filterMap fun event => event.act.deed?) = [] :=
      filterMap_reading (fun a ha => by cases a <;> first | rfl | cases ha) hnew
    have hdeeds : (s.step l).history.filterMap Act.deed? = s.history.filterMap Act.deed? := by
      simp [history, hrec, List.filterMap_map, hnone]
    have hsame : c.ledger (s.step l) =
        c.ledger s ++ (l.pushed.map Response.received).flatMap c.due := by
      simp only [Conduct.ledger, hdeeds, hout.workers_eq, hout.queue_eq, List.map_append,
        List.flatMap_append, List.append_assoc]
    rw [hsame]
  | absent hpush hsame => rw [hsame, hpush, List.map_nil, List.flatMap_nil, List.append_nil]
  | @turn w phase e hpush hw ht he =>
    obtain ⟨taken, hqueue, hreceived⟩ := ht.takes
    have hnews : s.news w l = e.acts := by simp [news, he]
    have hlt := (List.getElem?_eq_some_iff.mp hw).1
    have hpays := ht.pays hlog (hnews ▸ hc w hlt)
    rw [hpush, List.map_nil, List.flatMap_nil, List.append_nil, he, List.perm_iff_count]
    intro a
    have hcount := congrArg (List.count a) hpays
    have hdue : (s.queue.map Response.received).flatMap c.due =
        (e.acts.filterMap Act.received?).flatMap c.due ++
          ((s.apply w e).queue.map Response.received).flatMap c.due := by
      rw [hqueue, List.map_append, List.flatMap_append, hreceived]
      rfl
    simp only [Conduct.ledger, history_apply, hdue, List.filterMap_append, List.count_append,
      count_owed hw, count_owed_apply hw] at hcount ⊢
    omega

/-- Along a run the ledger stays but for the order and for what arrives. -/
theorem run_ledger {s : Pool} {labels : List Label} (hlog : s.params.loggerInUse.Steady)
    (hc : ∀ w < s.workers.length, ∀ x ∈ s.trace w labels, c.allows x.1 x.2 = true) :
    (c.ledger (s.run labels)).Perm
      (c.ledger s ++ ((labels.flatMap Label.pushed).map Response.received).flatMap c.due) := by
  induction labels generalizing s with
  | nil => simp
  | cons l ls ih =>
    have hfirst := step_ledger (c := c) (l := l) hlog fun w hw a ha =>
      hc w hw (s.transformInForce, a) (List.mem_append_left _ (List.mem_map_of_mem ha))
    have hrest := ih (s := s.step l) (by rw [params_step]; exact hlog) fun w hw x hx =>
      hc w (by rwa [length_workers_step] at hw) x (List.mem_append_right _ hx)
    rw [run_cons]
    refine hrest.trans ((hfirst.append_right _).trans ?_)
    simp only [List.flatMap_cons, List.map_append, List.flatMap_append, List.append_assoc,
      List.Perm.refl]

/-! ### Runs that leave nothing to do -/

/-- A run of a pool, from its start on, over the responses supplied to it, in which foreign
    code follows a conduct and after which nothing is left to do. -/
structure Completes (c : Conduct) (supplied : List Response) (params : PoolParams)
    (around : Surroundings) (s : Pool) (labels : List Label) : Prop where
  running : (start params around).running? = some s
  steady : params.loggerInUse.Steady
  /-- The responses are there at the start or arrive later. -/
  supplied_eq : around.queue ++ labels.flatMap Label.pushed = supplied
  /-- What the workers go through is in accordance with the conduct. -/
  conducted : ∀ w < params.workerCount, ∀ x ∈ s.trace w labels, c.allows x.1 x.2 = true
  /-- All responses are consumed. -/
  consumed : (s.run labels).queue = []
  /-- Every task and every delete has ended, and the worker has gone on from it. -/
  settled : ∀ phase ∈ (s.run labels).workers, phase.busy = false

namespace Completes

variable {supplied : List Response} {params : PoolParams} {around : Surroundings} {s : Pool}
  {labels : List Label}

/-- Such a run has done what its responses are worth, in some order. -/
theorem deeds (h : Completes c supplied params around s labels) :
    ((s.run labels).history.filterMap Act.deed?).Perm
      ((supplied.map Response.received).flatMap c.due) := by
  have hl := launched_of_running h.running
  have hlog : s.params.loggerInUse.Steady := by
    rw [hl.params_eq]
    exact h.steady
  have hrun := run_ledger (c := c) hlog fun w hw => h.conducted w (by rwa [← hl.length_workers])
  -- at the start nothing is done or owed, so the ledger is what is due
  have hstart : c.ledger s = (around.queue.map Response.received).flatMap c.due := by
    have howed : s.workers.flatMap c.owes = [] := by
      simp [List.flatMap_eq_nil_iff, hl.workers_eq, Conduct.owes]
    have hdone : s.history.filterMap Act.deed? = [] := by
      simp [history, hl.record_eq, Act.deed?, LogLine.level]
    rw [Conduct.ledger, hdone, howed, hl.queue_eq, List.nil_append, List.nil_append]
  -- at the end nothing is owed or due, so the ledger is what is done
  have hend : c.ledger (s.run labels) = (s.run labels).history.filterMap Act.deed? := by
    have howed : (s.run labels).workers.flatMap c.owes = [] := by
      rw [List.flatMap_eq_nil_iff]
      exact fun phase hmem => c.owes_eq_nil (h.settled phase hmem)
    rw [Conduct.ledger, howed, h.consumed, List.map_nil, List.flatMap_nil, List.append_nil,
      List.append_nil]
  rw [hstart, hend, ← List.flatMap_append, ← List.map_append, h.supplied_eq] at hrun
  exact hrun

theorem select {β : Type} (h : Completes c supplied params around s labels)
    {f : Act → Option β} {g : Received → Option β} (hf : ∀ a, a.deed?.bind f = f a)
    (hg : ∀ r, (c.due r).filterMap f = (g r).toList) :
    ((s.run labels).history.filterMap f).Perm (supplied.filterMap fun r => g r.received) := by
  have hdeeds := h.deeds.filterMap f
  have hworth (rs : List Response) : ((rs.map Response.received).flatMap c.due).filterMap f =
      rs.filterMap fun r => g r.received := by
    induction rs with
    | nil => rfl
    | cons r rs ih =>
      rw [List.map_cons, List.flatMap_cons, List.filterMap_append, hg, ih, filterMap_cons_eq]
  rw [List.filterMap_filterMap, hworth] at hdeeds
  simpa only [hf] using hdeeds

end Completes

/-! ### The guarantee -/

/-- What a pool has done for responses under a conduct, in some order. -/
structure Performs (c : Conduct) (supplied : List Response) (s : Pool) : Prop where
  /-- The task is called once for each response with a message, on the first one. -/
  calls : (s.history.filterMap Act.call?).Perm
    (supplied.filterMap fun r => r.received.head?)
  /-- Delete is called once for each of these messages on which the task succeeds. -/
  deletes : (s.history.filterMap Act.delete?).Perm
    (supplied.filterMap fun r => c.delete? r.received)
  /-- A report is made, taken or not, once for each of these messages on which the task
      fails and once for each response that is an error. -/
  reports : (s.history.filterMap Act.report?).Perm
    (supplied.filterMap fun r => c.report? r.received)
  /-- A line at the level of errors is written once for each delete that fails. -/
  errorLines : (s.history.filterMap Act.errorLine?).Perm
    (supplied.filterMap fun r => c.errorLine? r.received)

/-- A run that leaves nothing to do has performed what its responses ask for. -/
theorem Completes.performs {supplied : List Response} {params : PoolParams}
    {around : Surroundings} {s : Pool} {labels : List Label}
    (h : Completes c supplied params around s labels) :
    Performs c supplied (s.run labels) where
  calls := h.select Act.deed?_bind_call? fun r => by
    simp [c.due_eq, Act.call?, Function.comp_def]
  deletes := h.select Act.deed?_bind_delete? fun r => by
    simp [c.due_eq, Act.delete?, Function.comp_def]
  reports := h.select Act.deed?_bind_report? fun r => by
    simp [c.due_eq, Act.report?, Function.comp_def]
  errorLines := h.select Act.deed?_bind_errorLine? fun r => by
    cases hline : c.errorLine? r with
    | none => simp [c.due_eq, hline, Act.errorLine?, Function.comp_def]
    | some line =>
      have hlevel := c.level_of_errorLine? hline
      simp [c.due_eq, hline, hlevel, Act.errorLine?, Function.comp_def]

/-- Two pools that have done the same, in whatever order. -/
structure SameDeeds (s t : Pool) : Prop where
  calls : (s.history.filterMap Act.call?).Perm (t.history.filterMap Act.call?)
  deletes : (s.history.filterMap Act.delete?).Perm (t.history.filterMap Act.delete?)
  reports : (s.history.filterMap Act.report?).Perm (t.history.filterMap Act.report?)
  errorLines : (s.history.filterMap Act.errorLine?).Perm (t.history.filterMap Act.errorLine?)

theorem Performs.sameDeeds {supplied : List Response} {s t : Pool}
    (hs : Performs c supplied s) (ht : Performs c supplied t) : SameDeeds s t where
  calls := hs.calls.trans ht.calls.symm
  deletes := hs.deletes.trans ht.deletes.symm
  reports := hs.reports.trans ht.reports.symm
  errorLines := hs.errorLines.trans ht.errorLines.symm

/-- **Independence of the schedule.** Two runs over the same responses under the same
    conduct that leave nothing to do have done the same, namely what the responses ask for,
    whatever the number of workers, the order of their steps, the clocks, the capacities of
    the error channels, and the times at which the responses arrive. -/
theorem run_confluent {supplied : List Response} {params params' : PoolParams}
    {around around' : Surroundings} {s t : Pool} {ls ms : List Label}
    (hs : Completes c supplied params around s ls)
    (ht : Completes c supplied params' around' t ms) :
    Performs c supplied (s.run ls) ∧ Performs c supplied (t.run ms) ∧
      SameDeeds (s.run ls) (t.run ms) :=
  ⟨hs.performs, ht.performs, hs.performs.sameDeeds ht.performs⟩

/-- The task panics on one message, and another one cannot be deleted. -/
def picky : Conduct where
  task m := if m.id = some "bad" then .panicked (.text "boom") else .ok
  delete m := if m.id = some "stuck" then some (.delete "stuck" "gone") else none
  recover := id

/-- A message that the task panics on, an error, and a message that cannot be deleted with
    one that plays no part. -/
def troubles : List Response :=
  [⟨.messages [⟨some "bad", none, none⟩], false⟩, ⟨.failed (.receive "down"), false⟩,
    ⟨.messages [⟨some "stuck", none, none⟩, ⟨some "extra", none, none⟩], false⟩]

def solo (queue : List Response) : Pool :=
  { pair queue with
    params := { PoolParams.pair with workerCount := 1 }
    workers := [.spawned]
    senders := 1
    record := [⟨0, none, .logged (.poolStarted 1 "q")⟩] }

def aloneRun : List Label :=
  List.replicate 4 (.run 0) ++ [.task 0 (.finish (.panicked (.plain (.text "boom"))))] ++
    List.replicate 9 (.run 0) ++
    [.task 0 (.finish .ok), .delete 0 (.finish (.failed (.delete "stuck" "gone"))), .run 0]

/-- Two workers share what arrives when they wait; the first task ends last, after a while
    and after the stop signal. -/
def sharedRun : List Label :=
  [.run 0, .run 1, .run 0, .run 1, .push troubles, .run 0, .run 1, .run 0] ++
    List.replicate 6 (.run 1) ++
    [.task 1 (.finish .ok), .delete 1 (.finish (.failed (.delete "stuck" "gone"))), .run 1,
      .advance 5, .fireStop, .task 0 (.finish (.panicked (.plain (.text "boom")))), .run 0]

theorem completes_solo : Completes picky troubles { PoolParams.pair with workerCount := 1 }
    { queue := troubles } (solo troubles) aloneRun where
  running := rfl
  steady _ _ := rfl
  supplied_eq := rfl
  conducted := by decide
  consumed := by decide
  settled := by decide

theorem completes_pair : Completes picky troubles .pair {} (pair []) sharedRun where
  running := rfl
  steady _ _ := rfl
  supplied_eq := rfl
  conducted := by decide
  consumed := by decide
  settled := by decide

/-- One worker, and two workers that find no room for the second report: the reports are
    made in another order, and they are the same. -/
theorem run_confluent_pair :
    Completes picky troubles { PoolParams.pair with workerCount := 1 } { queue := troubles }
      (solo troubles) aloneRun ∧
    Completes picky troubles .pair {} (pair []) sharedRun ∧
    Performs picky troubles ((solo troubles).run aloneRun) ∧
    Performs picky troubles ((pair []).run sharedRun) ∧
    SameDeeds ((solo troubles).run aloneRun) ((pair []).run sharedRun) ∧
    ((solo troubles).run aloneRun).history.filterMap Act.report? =
      [.task "bad" (.panicked "boom"), .receive "down"] ∧
    ((pair []).run sharedRun).history.filterMap Act.report? =
      [.receive "down", .task "bad" (.panicked "boom")] ∧
    ((pair []).run sharedRun).history.filterMap Act.errorLine? =
      [.deleteFailed "stuck" (.delete "stuck" "gone")] := by
  obtain ⟨hsolo, hpair, hsame⟩ := run_confluent completes_solo completes_pair
  exact ⟨completes_solo, completes_pair, hsolo, hpair, hsame, by decide, by decide, by decide⟩

end Pool

end ConsumerPool
