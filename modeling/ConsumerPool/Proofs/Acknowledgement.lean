import ConsumerPool.Proofs.Handling
import ConsumerPool.Proofs.Stop

/-! # Acknowledgement

  A message is deleted if and only if the task has returned on it without an
  error, once, right after the return, and with the message as it was
  received. This holds delivery by delivery, in every run. -/

namespace ConsumerPool

variable {logger : Logger} {w : Nat}

/-! ### After a failed task and a failed delete -/

theorem Follows.owing_deletes {e : PoolError} {after : AfterReport} {xs : List Act}
    {c : Stage} (h : Follows logger w (.owing e after) xs c) :
    (untilReceive xs).filterMap Act.delete? = [] :=
  h.owing_select Act.delete?_quiet fun _ _ => rfl

theorem Follows.owing_returns {e : PoolError} {after : AfterReport} {xs : List Act}
    {c : Stage} (h : Follows logger w (.owing e after) xs c) (m : Message) :
    .taskEnded m .ok ∉ untilReceive xs := by
  intro hmem
  obtain ⟨taken, heq⟩ := h.owing_quiet _ hmem rfl
  cases heq

theorem Logger.Steady.not_mayPanic (h : logger.Steady) {line : LogLine} {p : Payload} :
    ¬ logger.MayPanic line p := by
  rintro ⟨n, hn⟩
  rw [h n line] at hn
  cases hn

/-- With a steady logger, a worker that is ready to receive does so, or ends as the
    stop signal asks for. -/
theorem Follows.after_ready (hsteady : logger.Steady) {xs : List Act} {c : Stage}
    (h : Follows logger w .ready xs c) :
    untilReceive xs <+: [.logged (.workerStopped w), .exited] := by
  cases h with
  | nil => exact List.nil_prefix
  | cons hx hxs =>
    cases hx with
    | choke _ hp => exact absurd hp hsteady.not_mayPanic
    | receive => simp
    -- the line about the stop, and then the exit
    | say hs =>
      cases hs
      rw [untilReceive_cons (by simp), List.cons_prefix_cons]
      refine ⟨rfl, ?_⟩
      cases hxs with
      | nil => exact List.nil_prefix
      | cons hy hys =>
        cases hy with
        | say hs | choke hs _ => cases hs
        | exit =>
          obtain ⟨rfl, -⟩ := hys.of_ended
          exact List.prefix_rfl

/-- With a steady logger, a failed delete is followed by two lines and the next
    receive, or by the end that the stop signal asks for. -/
theorem Follows.after_deleteFailed (hsteady : logger.Steady) {m : Message}
    {e : PoolError} {xs : List Act} {c : Stage}
    (h : Follows logger w (.deleteFailed m e) xs c) :
    untilReceive xs <+: [.logged (.deleteFailed m.shownId e),
      .logged (.completed m.shownId), .logged (.workerStopped w), .exited] := by
  cases h with
  | nil => exact List.nil_prefix
  | cons hx hxs =>
    cases hx with
    | choke _ hp => exact absurd hp hsteady.not_mayPanic
    | say hs =>
      cases hs
      -- the line about the delete comes first, then the one about the message
      rw [untilReceive_cons (by simp), List.cons_prefix_cons]
      refine ⟨rfl, ?_⟩
      cases hxs with
      | nil => exact List.nil_prefix
      | cons hy hys =>
        cases hy with
        | choke _ hp => exact absurd hp hsteady.not_mayPanic
        | say hs =>
          cases hs
          rw [untilReceive_cons (by simp), List.cons_prefix_cons]
          exact ⟨rfl, hys.after_ready hsteady⟩

/-! ### Deletes match successes -/

/-- The message on which a task has returned whose delete is still to be called. -/
def Stage.unacknowledged : Stage → List Message
  | .succeeded m => [m]
  | _ => []

theorem Next.balance {a b : Stage} {x : Act} (h : Next logger w a x b) :
    a.unacknowledged ++ x.success?.toList = x.delete?.toList ++ b.unacknowledged := by
  cases h with
  | say hs => cases hs <;> rfl
  | choke hs _ => cases hs <;> rfl
  | _ => rfl

/-- Along a chain of rules, the deletes are the successes, in order. -/
theorem Follows.balance {a b : Stage} {xs : List Act} (h : Follows logger w a xs b) :
    a.unacknowledged ++ xs.filterMap Act.success? =
      xs.filterMap Act.delete? ++ b.unacknowledged := by
  induction h with
  | nil => simp
  | cons hx _ ih =>
    rw [filterMap_cons_eq, filterMap_cons_eq]
    exact balance_append hx.balance ih

/-! ### The guarantee -/

/-- The deletes of a worker answer the successes of its tasks. -/
structure Acknowledges (s : Pool) (w : Nat) : Prop where
  /-- Each delivery of a message is answered by exactly one delete, of that message,
      if the task has returned on it without an error, and else by none. -/
  delivery : ∀ pre m ms post, s.acts w = pre ++ .received (.messages (m :: ms)) :: post →
    (untilReceive post).filterMap Act.delete? =
      if .taskEnded m .ok ∈ untilReceive post then [m] else []
  /-- The delete is called right after the task has returned, and not again before
      the next receive. -/
  once : ∀ pre m post, s.acts w = pre ++ .taskEnded m .ok :: post →
    ∃ rest, post = .deleteBegun m :: rest ∧
      (untilReceive rest).filterMap Act.delete? = []
  /-- Every delete is that of a message just received whose task has just returned. -/
  only : ∀ pre m post, s.acts w = pre ++ .deleteBegun m :: post →
    ∃ before ms, pre = before ++ [.received (.messages (m :: ms)),
      .logged (.processing m.shownId), .taskBegun m, .taskEnded m .ok]
  /-- A task that returns an error or panics is followed by no delete before the next
      receive, whether or not a transform or a disposal panics. -/
  failure : ∀ pre m outcome post, s.acts w = pre ++ .taskEnded m outcome :: post →
    outcome ≠ .ok → (untilReceive post).filterMap Act.delete? = []
  /-- A failed delete is not tried again and not reported. -/
  failedDelete : ∀ pre m e post, s.acts w = pre ++ .deleteEnded m (.failed e) :: post →
    (untilReceive post).filterMap Act.delete? = [] ∧
      (untilReceive post).filterMap Act.report? = []
  /-- Nor does it end the worker if the logger is steady: two lines follow and then
      the next receive, unless the stop signal fires. -/
  goesOn : s.params.loggerInUse.Steady →
    ∀ pre m e post, s.acts w = pre ++ .deleteEnded m (.failed e) :: post →
      untilReceive post <+: [.logged (.deleteFailed m.shownId e),
        .logged (.completed m.shownId), .logged (.workerStopped w), .exited]
  /-- A worker exits only after the stop signal has fired. -/
  exits : .exited ∈ s.acts w → s.stop = true
  /-- The deletes are the successes, in order. -/
  balance : (s.acts w).filterMap Act.delete? = (s.acts w).filterMap Act.success?

/-- What follows a delivery holds the delete if and only if it holds the success. -/
theorem Handled.deletes {m : Message} {xs : List Act} {c : Stage} {phase : Phase}
    (h : Handled logger w m xs c) (hc : c.Shows phase) :
    (untilReceive xs).filterMap Act.delete? =
      if .taskEnded m .ok ∈ untilReceive xs then [m] else [] := by
  cases h with
  | waiting => rfl
  | unannounced _ => rfl
  | called hrun =>
    rw [untilReceive_cons (by simp), untilReceive_cons (by simp)]
    -- by what the task comes to; only a success is followed by a delete
    cases hrun.ran hc with
    | running => rfl
    | acknowledged hd =>
      have hquiet := hd.select_quiet rfl Act.delete?_quiet
      simp [untilReceive_cons, List.filterMap_cons, Act.delete?, hquiet,
        -List.filterMap_eq_nil_iff]
    | failed ho | panicked ho | transformed ho =>
      have hquiet := ho.owing_deletes
      have hnot := ho.owing_returns m
      simp [untilReceive_cons, List.filterMap_cons, Act.delete?, hquiet, hnot]
    | lost | undisposed => simp [untilReceive_cons, Act.delete?]

theorem Ran.failure {m : Message} {outcome : Outcome TaskError Thrown} {xs : List Act}
    {c : Stage} (h : Ran logger w m (.taskEnded m outcome :: xs) c) (hne : outcome ≠ .ok) :
    (untilReceive xs).filterMap Act.delete? = [] := by
  cases h with
  | acknowledged _ => exact absurd rfl hne
  | failed ho | panicked ho => exact ho.owing_deletes
  | transformed ho =>
    simp [untilReceive_cons, List.filterMap_cons, Act.delete?, ho.owing_deletes,
      -List.filterMap_eq_nil_iff]
  | lost | undisposed => rfl

namespace Pool

/-- A worker on the protocol whose exits wait for the stop signal acknowledges. -/
theorem At.acknowledges {s : Pool} {stage : Stage} {phase : Phase}
    (h : s.At w stage phase) (hstop : LeavesOnStop w s) : Acknowledges s w where
  delivery := by
    intro pre m ms post hx
    obtain ⟨a, b, -, hnext, hpost⟩ := h.around hx
    cases hnext
    exact (hpost.handled h.shows).deletes h.shows
  once := by
    intro pre m post hx
    obtain ⟨a, b, -, hnext, hpost⟩ := h.around hx
    cases hnext
    cases hpost with
    | nil => cases h.shows
    | cons hy hys =>
      cases hy with
      | say hs | choke hs _ => cases hs
      | delete => exact ⟨_, rfl, hys.select_quiet rfl Act.delete?_quiet⟩
  only := by
    intro pre m post hx
    obtain ⟨a, b, hpre, hnext, -⟩ := h.around hx
    cases hnext
    exact hpre.before_succeeded
  failure := by
    intro pre m outcome post hx hne
    obtain ⟨a, b, -, hnext, hpost⟩ := h.around hx
    obtain rfl : a = .inTask m := by cases hnext <;> rfl
    exact ((Follows.cons hnext hpost).ran h.shows).failure hne
  failedDelete := by
    intro pre m e post hx
    obtain ⟨a, b, -, hnext, hpost⟩ := h.around hx
    cases hnext
    exact ⟨hpost.select_quiet rfl Act.delete?_quiet, hpost.select_quiet rfl Act.report?_quiet⟩
  goesOn := by
    intro hsteady pre m e post hx
    obtain ⟨a, b, -, hnext, hpost⟩ := h.around hx
    cases hnext
    exact hpost.after_deleteFailed hsteady
  exits := fun hmem => hstop (.inr (.inr hmem))
  balance := by
    have hb := h.follows.balance
    -- between two steps no success waits for its delete
    have hnone : stage.unacknowledged = [] := by
      cases h.shows <;> rfl
    rw [hnone, List.append_nil] at hb
    exact hb.symm

/-- **Acknowledgement safety.** In every run of every pool that a start leaves, the
    deletes of each worker answer the successes of its tasks. -/
theorem run_acknowledges {params : PoolParams} {around : Surroundings} {s : Pool}
    (hs : (start params around).running? = some s) (hw : w < params.workerCount)
    (labels : List Label) : Acknowledges (s.run labels) w := by
  have hl := launched_of_running hs
  obtain ⟨stage, phase, h⟩ := run_follows hl hw labels
  exact h.acknowledges (run_leavesOnStop hl w labels)

/-- A delivery that fires the stop signal, a task that returns and a delete that
    fails. -/
theorem run_acknowledges_pair :
    (start .pair { queue := [⟨.messages [⟨some "1", some "h", none⟩], true⟩] }).running? =
        some (pair [⟨.messages [⟨some "1", some "h", none⟩], true⟩]) ∧
      0 < PoolParams.pair.workerCount ∧
      Acknowledges
        ((pair [⟨.messages [⟨some "1", some "h", none⟩], true⟩]).run
          [.run 0, .run 0, .run 0, .run 0, .task 0 (.finish .ok),
            .delete 0 (.finish (.failed (.delete "1" "gone"))), .run 0, .run 0, .run 0,
            .run 0]) 0 ∧
      ((pair [⟨.messages [⟨some "1", some "h", none⟩], true⟩]).run
          [.run 0, .run 0, .run 0, .run 0, .task 0 (.finish .ok),
            .delete 0 (.finish (.failed (.delete "1" "gone"))), .run 0, .run 0, .run 0,
            .run 0]).acts 0 =
        [.logged (.workerStarted 0), .receiveBegun,
          .received (.messages [⟨some "1", some "h", none⟩]), .logged (.processing "1"),
          .taskBegun ⟨some "1", some "h", none⟩,
          .taskEnded ⟨some "1", some "h", none⟩ .ok,
          .deleteBegun ⟨some "1", some "h", none⟩,
          .deleteEnded ⟨some "1", some "h", none⟩ (.failed (.delete "1" "gone")),
          .logged (.deleteFailed "1" (.delete "1" "gone")), .logged (.completed "1"),
          .logged (.workerStopped 0), .exited] :=
  ⟨rfl, by decide, run_acknowledges (pair_running _) (by decide) _, by decide⟩

end Pool

end ConsumerPool
