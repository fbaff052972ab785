import ConsumerPool.Proofs.Acknowledgement
import ConsumerPool.Proofs.Conservation
import Mathlib.Data.List.Induction

/-! # What the Log Says

  With a logger that does not panic, the events of a worker determine its lines
  and the places where they stand. `spell` writes the lines into a list of events;
  a worker's acts are its events spelled, up to the lines that are due at the end.
  A failed delete is reported nowhere but in the log, so its line is the only
  evidence of it. -/

namespace ConsumerPool

variable {logger : Logger} {w : Nat}

/-! ### Lines and events -/

namespace LogLine

def processing? : LogLine → Option String
  | .processing id => some id
  | _ => none

def completed? : LogLine → Option String
  | .completed id => some id
  | _ => none

def dropped? : LogLine → Option PoolError
  | .errorDropped e => some e
  | _ => none

end LogLine

namespace Act

def line? : Act → Option LogLine
  | .logged line => some line
  | _ => none

/-- An event with its lines, in the places where they stand. A line alone stands
    for nothing. -/
def spelled (w : Nat) : Act → List Act
  | .logged _ => []
  | .taskBegun m => [.logged (.processing m.shownId), .taskBegun m]
  | .reported e false => [.reported e false, .logged (.errorDropped e)]
  | .deleteEnded m .ok => [.deleteEnded m .ok, .logged (.completed m.shownId)]
  | .deleteEnded m (.failed e) => [.deleteEnded m (.failed e),
      .logged (.deleteFailed m.shownId e), .logged (.completed m.shownId)]
  | .exited => [.logged (.workerStopped w), .exited]
  | a => [a]

def lines (w : Nat) (a : Act) : List LogLine := (a.spelled w).filterMap line?

/-- The message whose delete has returned, with an error or without. -/
def deleted? : Act → Option Message
  | .deleteEnded m .ok | .deleteEnded m (.failed _) => some m
  | _ => none

/-- The line that a failed delete asks for. -/
def failureLine? : Act → Option LogLine
  | .deleteEnded m (.failed e) => some (.deleteFailed m.shownId e)
  | _ => none

/-! What the lines of an event say about it. -/

theorem lines_processing? (w : Nat) (a : Act) :
    (a.lines w).filterMap LogLine.processing? = (a.call?.map Message.shownId).toList := by
  cases a with
  | reported e taken => cases taken <;> rfl
  | deleteEnded m outcome => cases outcome <;> rfl
  | _ => rfl

theorem lines_completed? (w : Nat) (a : Act) :
    (a.lines w).filterMap LogLine.completed? = (a.deleted?.map Message.shownId).toList := by
  cases a with
  | reported e taken => cases taken <;> rfl
  | deleteEnded m outcome => cases outcome <;> rfl
  | _ => rfl

theorem lines_error (w : Nat) (a : Act) :
    (a.lines w).filterMap (Option.guard fun line => line.level = .error) =
      a.failureLine?.toList := by
  cases a with
  | reported e taken => cases taken <;> rfl
  | deleteEnded m outcome => cases outcome <;> rfl
  | _ => rfl

theorem lines_dropped? (w : Nat) (a : Act) :
    (a.lines w).filterMap LogLine.dropped? = a.rejected?.toList := by
  cases a with
  | reported e taken => cases taken <;> rfl
  | deleteEnded m outcome => cases outcome <;> rfl
  | _ => rfl

theorem started_not_mem_spelled (w v : Nat) (a : Act) :
    .logged (.workerStarted v) ∉ a.spelled w := by
  cases a with
  | reported e taken => cases taken <;> simp [spelled]
  | deleteEnded m outcome => cases outcome <;> simp [spelled]
  | _ => simp [spelled]

/-- Whether a line says that a message is done with or that it could not be deleted. -/
def concludes : Act → Bool
  | .logged (.completed _) | .logged (.deleteFailed _ _) => true
  | _ => false

/-- Whether a report that follows at once is that of a failed run. -/
def failsRun : Act → Bool
  | .taskEnded _ (.failed _) | .taskEnded _ (.panicked _) | .transformed _ _ => true
  | _ => false

/-- Whether a panic that follows at once cuts a run short. -/
def breaksRun : Act → Bool
  | .transformed _ _ | .taskEnded _ (.panicked (.fragile _)) | .deleteEnded _ (.panicked _) =>
      true
  | _ => false

end Act

def spell (w : Nat) (acts : List Act) : List Act := acts.flatMap (Act.spelled w)

/-- How many reports are those of failed runs. -/
def runReports : List Act → Nat
  | x :: y :: rest => (x.failsRun && y.report?.isSome).toNat + runReports (y :: rest)
  | [_] | [] => 0

/-- Whether the last acts are a panic of the transform, of the delete, or of the disposal of
    what a task threw. -/
def cutShort (acts : List Act) : Bool :=
  match acts.reverse with
  | .crashed _ :: x :: _ => x.breaksRun
  | _ => false

/-! ### Due lines -/

/-- The lines that are still to be written about what is done. -/
def Stage.due (w : Nat) : Stage → List LogLine
  | .fresh => [.workerStarted w]
  | .rejected e _ => [.errorDropped e]
  | .deleteFailed m e => [.deleteFailed m.shownId e, .completed m.shownId]
  | .finishing m => [.completed m.shownId]
  | _ => []

/-- The lines that are written about what is still to be done. -/
def Stage.ahead (w : Nat) : Stage → List LogLine
  | .announced m => [.processing m.shownId]
  | .closing => [.workerStopped w]
  | _ => []

theorem Stage.due_or_ahead (w : Nat) (a : Stage) : a.due w = [] ∨ a.ahead w = [] := by
  cases a <;> simp [due, ahead]

/-- A rule adds an act to the worker's own, and the event with its lines to those
    spelled. -/
theorem Next.spells {a b : Stage} {x : Act} (hlog : logger.Steady)
    (h : Next logger w a x b) :
    (a.ahead w).map Act.logged ++ (x :: (b.due w).map Act.logged) =
      (a.due w).map Act.logged ++ (x.spelled w ++ (b.ahead w).map Act.logged) := by
  cases h with
  | say hs => cases hs <;> rfl
  | choke _ hp => exact absurd hp hlog.not_mayPanic
  | _ => rfl

/-- Along a chain of rules the acts are the events spelled, but for the lines that are
    due or ahead at its two ends. -/
theorem Follows.spells {a c : Stage} {xs : List Act} (hlog : logger.Steady)
    (h : Follows logger w a xs c) :
    (a.ahead w).map Act.logged ++ (xs ++ (c.due w).map Act.logged) =
      (a.due w).map Act.logged ++ (spell w xs ++ (c.ahead w).map Act.logged) := by
  induction h with
  | @nil a => rcases a.due_or_ahead w with h | h <;> simp [h, spell]
  | @cons a b c x xs hx _ ih =>
    have hstep := hx.spells hlog
    have hspell : spell w (x :: xs) = x.spelled w ++ spell w xs := List.flatMap_cons
    rw [hspell]
    -- the lines at the stage between belong to the act before it or to the acts after it
    rcases b.due_or_ahead w with hb | hb <;>
      simp only [hb, List.map_nil, List.nil_append, List.append_nil] at hstep ih
    · have hbefore : (a.ahead w).map Act.logged ++ [x] =
          ((a.due w).map Act.logged ++ x.spelled w) ++ (b.ahead w).map Act.logged := by
        rw [hstep, List.append_assoc]
      have hboth := balance_append hbefore ih
      simpa [List.append_assoc] using hboth
    · have hboth := congrArg
        (· ++ (spell w xs ++ (c.ahead w).map Act.logged)) hstep
      rw [List.cons_append, ih]
      simpa [List.append_assoc] using hboth

/-! ### Runs that are done with -/

/-- Whether nothing is said any more about the message of the last run. -/
def Stage.silent : Stage → Bool
  | .ready | .resting | .stopping | .closing | .recovering _ _ | .owing _ _
  | .rejected _ _ | .dying _ | .ended => true
  | .fresh | .receiving | .holding _ | .announced _ | .inTask _ | .succeeded _
  | .deleting _ | .deleteFailed _ _ | .finishing _ => false

theorem Says.silent {a b : Stage} {line : LogLine} (h : Says w a line b)
    (ha : a.silent = true) : b.silent = true ∧ (Act.logged line).concludes = false := by
  cases h with
  | start | announce | logFailure | complete => simp [Stage.silent] at ha
  | stop | stopRested | stopSeen | dropAndPoll | dropAndIdle => exact ⟨rfl, rfl⟩

theorem Next.silent {a b : Stage} {x : Act} (h : Next logger w a x b)
    (ha : a.silent = true) (hx : x ≠ .receiveBegun) :
    b.silent = true ∧ x.concludes = false := by
  cases h with
  | say hs => exact hs.silent ha
  | choke hs _ => exact ⟨rfl, (hs.silent ha).2⟩
  | receive | receiveRested => exact absurd rfl hx
  | crash | exit | pause | transform | transformPanicked | reportAndPoll | reportAndIdle
  | reject => exact ⟨rfl, rfl⟩
  | abandon | deliver | deliverNone | receiveFailed | receivePanicked | call | succeed
  | delete | taskFailed | taskPanicked | taskCaught | disposalPanicked | deleteOk
  | deleteFailed | deletePanicked => simp [Stage.silent] at ha

/-- From a silent stage on, no line is written or due about the message of the last
    run. -/
theorem Follows.silent {a c : Stage} {xs : List Act} (h : Follows logger w a xs c)
    (ha : a.silent = true) :
    ∀ x ∈ untilReceive (xs ++ (c.due w).map Act.logged), x.concludes = false := by
  induction h with
  | @nil a => cases a <;> simp_all [Stage.silent, Stage.due, untilReceive, Act.concludes]
  | @cons a b c x xs hx _ ih =>
    by_cases hr : x = .receiveBegun
    · subst hr
      simp
    · obtain ⟨hb, hquiet⟩ := hx.silent ha hr
      exact forall_untilReceive_cons hquiet (ih hb)

/-- What follows a run that has succeeded: the delete, and when it has returned the
    lines that it asks for, which are the last about the message. -/
inductive Concluded (m : Message) : List Act → Prop where
  | deleting : Concluded m [.deleteBegun m]
  | deleted {rest} : (∀ x ∈ untilReceive rest, x.concludes = false) →
      Concluded m (.deleteBegun m :: .deleteEnded m .ok ::
        .logged (.completed m.shownId) :: rest)
  | undeleted {e rest} : (∀ x ∈ untilReceive rest, x.concludes = false) →
      Concluded m (.deleteBegun m :: .deleteEnded m (.failed e) ::
        .logged (.deleteFailed m.shownId e) :: .logged (.completed m.shownId) :: rest)
  | lost {p} : Concluded m [.deleteBegun m, .deleteEnded m (.panicked p), .crashed p]

/-- What follows when a message is done with but for the line that says so. -/
theorem Follows.of_finishing {m : Message} {xs : List Act} {c : Stage}
    (hlog : logger.Steady) (h : Follows logger w (.finishing m) xs c) :
    ∃ rest, xs ++ (c.due w).map Act.logged = .logged (.completed m.shownId) :: rest ∧
      ∀ x ∈ untilReceive rest, x.concludes = false := by
  cases h with
  | nil => exact ⟨[], rfl, by simp⟩
  | cons hx hxs =>
    cases hx with
    | choke _ hp => exact absurd hp hlog.not_mayPanic
    | say hs =>
      cases hs
      exact ⟨_, rfl, hxs.silent rfl⟩

/-- A delete that runs ends with the lines that it asks for. -/
theorem Follows.concluded {m : Message} {xs : List Act} {c : Stage} {phase : Phase}
    (hlog : logger.Steady) (h : Follows logger w (.deleting m) xs c)
    (hc : c.Shows phase) :
    Concluded m (.deleteBegun m :: (xs ++ (c.due w).map Act.logged)) := by
  cases h with
  | nil => exact .deleting
  | cons hx hxs =>
    cases hx with
    | say hs | choke hs _ => cases hs
    | deleteOk =>
      obtain ⟨rest, heq, hrest⟩ := hxs.of_finishing hlog
      rw [List.cons_append, heq]
      exact .deleted hrest
    | deletePanicked =>
      obtain ⟨rfl, rfl⟩ := hxs.of_dying hc
      exact .lost
    | deleteFailed =>
      -- the error comes before the line that all deletes have
      cases hxs with
      | nil => exact .undeleted (by simp)
      | cons hy hys =>
        cases hy with
        | choke _ hp => exact absurd hp hlog.not_mayPanic
        | say hs =>
          cases hs
          obtain ⟨rest, heq, hrest⟩ := hys.of_finishing hlog
          simp only [List.cons_append, heq]
          exact .undeleted hrest

/-! ### Runs that are not -/

theorem runReports_concat (xs : List Act) (y : Act) :
    runReports (xs ++ [y]) =
      runReports xs + (xs.getLast?.any Act.failsRun && y.report?.isSome).toNat := by
  induction xs with
  | nil => rfl
  | cons x xs ih =>
    cases xs with
    | nil => simp [runReports]
    | cons z zs =>
      simp only [List.cons_append, runReports, List.getLast?_cons_cons] at ih ⊢
      omega

/-- How many runs are begun and neither done with nor reported at a stage. -/
def Stage.unfinished (acts : List Act) : Stage → Nat
  | .announced _ | .inTask _ | .succeeded _ | .recovering _ _ | .owing _ .poll
  | .deleting _ | .deleteFailed _ _ | .finishing _ => 1
  | .dying p => (cutShort (acts ++ [.crashed p])).toNat
  | .ended => (cutShort acts).toNat
  | .fresh | .ready | .resting | .stopping | .closing | .receiving | .holding _
  | .owing _ .idle | .rejected _ _ => 0

/-- An error that is owed has just come up, in a run or in a receive. -/
theorem Follows.before_owing {e : PoolError} {after : AfterReport} {xs : List Act}
    (h : Follows logger w .fresh xs (.owing e after)) :
    xs.getLast?.any Act.failsRun = decide (after = .poll) := by
  obtain ⟨ys, x, b, rfl, -, hx⟩ := h.last (by rintro rfl; cases h)
  rw [List.getLast?_concat]
  cases hx with
  | say hs => cases hs
  | taskFailed | taskPanicked | transform | receiveFailed => rfl

/-- A rule keeps the count of tasks that were about to run: the act says that a message
    is done with, reports a failed run, or leaves the run unfinished. -/
theorem Next.count {b c : Stage} {xs : List Act} {x : Act} (hlog : logger.Steady)
    (hxs : Follows logger w .fresh xs b) (hx : Next logger w b x c) :
    (([x].filterMap Act.line?).filterMap LogLine.processing?).length + b.unfinished xs =
      (([x].filterMap Act.line?).filterMap LogLine.completed?).length +
        (xs.getLast?.any Act.failsRun && x.report?.isSome).toNat +
          c.unfinished (xs ++ [x]) := by
  cases hx with
  | choke _ hp => exact absurd hp hlog.not_mayPanic
  | say hs => cases hs <;> simp [Stage.unfinished, Act.line?, Act.report?,
      LogLine.processing?, LogLine.completed?, List.filterMap_cons]
  | reportAndPoll | reportAndIdle =>
    have hlast := hxs.before_owing
    simp [Stage.unfinished, Act.line?, Act.report?, List.filterMap_cons, hlast]
  | @reject e after =>
    have hlast := hxs.before_owing
    cases after <;>
      simp [Stage.unfinished, Act.line?, Act.report?, List.filterMap_cons, hlast]
  | _ => simp [Stage.unfinished, Act.line?, Act.report?, List.filterMap_cons, cutShort,
      Act.breaksRun]

/-- The lines about tasks that were about to run number those about messages that are
    done with, the reports of failed runs, and the unfinished runs. -/
theorem Follows.count {xs : List Act} {c : Stage} (hlog : logger.Steady)
    (h : Follows logger w .fresh xs c) :
    ((xs.filterMap Act.line?).filterMap LogLine.processing?).length =
      ((xs.filterMap Act.line?).filterMap LogLine.completed?).length + runReports xs +
        c.unfinished xs := by
  -- from the back, since what a report is about shows in the act before it
  induction xs using List.reverseRecOn generalizing c with
  | nil =>
    cases h
    rfl
  | append_singleton ys x ih =>
    obtain ⟨b, hys, hx⟩ := h.split
    cases hx with
    | cons hx hnil =>
      cases hnil
      have hbefore := ih hys
      have hstep := Next.count hlog hys hx
      simp only [List.filterMap_append, List.length_append, runReports_concat]
      omega

/-- Only a worker that has ended has acts whose last is a panic. -/
theorem Follows.cutShort_eq_false {xs : List Act} {c : Stage}
    (h : Follows logger w .fresh xs c) (hc : c ≠ .ended) : cutShort xs = false := by
  by_cases hne : xs = []
  · subst hne
    rfl
  · obtain ⟨ys, x, b, rfl, -, hx⟩ := h.last hne
    unfold cutShort
    cases hx with
    | crash => exact absurd rfl hc
    | _ => simp

/-! ### What the log of a worker says -/

/-- The lines that a worker in a phase is still to write about what it has done. -/
def Phase.unwritten (w : Nat) : Phase → List LogLine
  | .spawned => [.workerStarted w]
  | .deleteFailed m e => [.deleteFailed m.shownId e, .completed m.shownId]
  | .finishing m => [.completed m.shownId]
  | .polling | .receiving | .holding _ | .inTask _ | .reporting _ _ | .deleting _
  | .idling | .yielding | .pausing _ | .leaving | .stopped | .crashed _ => []

/-- Whether a worker waits for foreign code, the clock or the others. -/
def Phase.suspended : Phase → Bool
  | .receiving | .inTask _ | .deleting _ | .yielding | .pausing _ => true
  | .spawned | .polling | .holding _ | .reporting _ _ | .deleteFailed _ _ | .finishing _
  | .idling | .leaving | .stopped | .crashed _ => false

/-- Whether a worker is in its task or in a delete. -/
def Phase.underway : Phase → Bool
  | .inTask _ | .deleting _ => true
  | .spawned | .polling | .receiving | .holding _ | .reporting _ _ | .deleteFailed _ _
  | .finishing _ | .idling | .yielding | .pausing _ | .leaving | .stopped
  | .crashed _ => false

/-- Between two steps, the phase tells which lines are due, and none is ahead. -/
theorem Stage.Shows.lines {a : Stage} {phase : Phase} (h : a.Shows phase) (w : Nat) :
    a.due w = phase.unwritten w ∧ a.ahead w = [] := by
  cases h <;> exact ⟨rfl, rfl⟩

theorem filterMap_spell {β : Type} {f : LogLine → Option β} {g : Act → Option β}
    (h : ∀ a : Act, (a.lines w).filterMap f = (g a).toList) (xs : List Act) :
    ((spell w xs).filterMap Act.line?).filterMap f = xs.filterMap g := by
  induction xs with
  | nil => rfl
  | cons x xs ih =>
    have hspell : spell w (x :: xs) = x.spelled w ++ spell w xs := List.flatMap_cons
    rw [hspell, List.filterMap_append, List.filterMap_append, ih, filterMap_cons_eq]
    exact congrArg (· ++ _) (h x)

namespace Pool

def log (s : Pool) (w : Nat) : List LogLine := (s.acts w).filterMap Act.line?

/-- The lines that a worker is still to write about what it has done. -/
def unwritten (s : Pool) (w : Nat) : List LogLine :=
  match s.workers[w]? with
  | some phase => phase.unwritten w
  | none => []

/-- The log of a worker accounts for what it has done. -/
structure Accounts (s : Pool) (w : Nat) : Prop where
  /-- The acts of the worker, with the lines that it is still to write, are a line that
      says that it has started and then its events with their lines. -/
  spelled : s.acts w ++ (s.unwritten w).map Act.logged =
    .logged (.workerStarted w) :: spell w (s.acts w)
  /-- The line about the start is the first one, and there is no other. -/
  started : ∀ x post, s.acts w = x :: post →
    x = .logged (.workerStarted w) ∧ ∀ v, .logged (.workerStarted v) ∉ post
  /-- Right before the task is called on a message, a line says so with its id. -/
  announced : ∀ pre m post, s.acts w = pre ++ .taskBegun m :: post →
    ∃ before, pre = before ++ [.logged (.processing m.shownId)]
  /-- Such a line stands nowhere else. -/
  announces : ∀ pre id post, s.acts w = pre ++ .logged (.processing id) :: post →
    ∃ m rest, id = m.shownId ∧ post = .taskBegun m :: rest
  /-- A run that succeeds is concluded: when its delete has returned, a line says that
      the message is done with, after one at the level of errors if the delete failed. -/
  concluded : ∀ pre m post, s.acts w = pre ++ .taskEnded m .ok :: post →
    Concluded m (post ++ (s.unwritten w).map Act.logged)
  /-- A run that fails is not. -/
  unconcluded : ∀ pre m outcome post, s.acts w = pre ++ .taskEnded m outcome :: post →
    outcome ≠ .ok →
      ∀ x ∈ untilReceive (post ++ (s.unwritten w).map Act.logged), x.concludes = false
  /-- A report that is rejected is followed by a line with the error. -/
  rejected : ∀ pre e post, s.acts w = pre ++ .reported e false :: post →
    ∃ rest, post = .logged (.errorDropped e) :: rest
  /-- The line about the stop is the last one, right before the worker exits. -/
  stopped : ∀ pre v post, s.acts w = pre ++ .logged (.workerStopped v) :: post →
    v = w ∧ post = [.exited]
  /-- A worker exits on the stop signal alone, and with that line. -/
  exited : .exited ∈ s.acts w → s.stop = true ∧
    ∃ pre, s.acts w = pre ++ [.logged (.workerStopped w), .exited]
  /-- The lines about runs are those of the calls of the task, in order. -/
  runs : (s.log w).filterMap LogLine.processing? =
    ((s.acts w).filterMap Act.call?).map Message.shownId
  /-- The lines about messages that are done with are those of the deletes that have
      returned, in order. -/
  deletes : (s.log w ++ s.unwritten w).filterMap LogLine.completed? =
    ((s.acts w).filterMap Act.deleted?).map Message.shownId
  /-- The lines at the level of errors are those of the failed deletes, in order. -/
  errors : ((s.log w ++ s.unwritten w).filter fun line => line.level = .error) =
    (s.acts w).filterMap Act.failureLine?
  /-- The lines about dropped errors are those of the rejected reports, in order. -/
  dropped : (s.log w).filterMap LogLine.dropped? = (s.acts w).filterMap Act.rejected?
  /-- If the worker is suspended or has ended, all its lines are written, and the lines
      about runs number those about messages that are done with, the reports of failed
      runs, and at most one unfinished run: one that is in its task or its delete, or
      that a panic of the transform, of the delete or of a disposal has cut short. -/
  unfinished : ∀ phase, s.workers[w]? = some phase →
    phase.suspended = true ∨ phase.ended = true →
      s.unwritten w = [] ∧
        ((s.log w).filterMap LogLine.processing?).length =
          ((s.log w).filterMap LogLine.completed?).length + runReports (s.acts w) +
            (phase.underway || cutShort (s.acts w)).toNat

theorem At.unwritten_eq {s : Pool} {stage : Stage} {phase : Phase}
    (h : s.At w stage phase) : s.unwritten w = stage.due w := by
  rw [unwritten, h.phase_eq, (h.shows.lines w).1]

/-- The acts of a worker on the protocol are its events spelled. -/
theorem At.spells {s : Pool} {stage : Stage} {phase : Phase} (h : s.At w stage phase)
    (hlog : s.params.loggerInUse.Steady) :
    s.acts w ++ (s.unwritten w).map Act.logged =
      .logged (.workerStarted w) :: spell w (s.acts w) := by
  have hspells := h.follows.spells hlog
  rw [(h.shows.lines w).2] at hspells
  rw [h.unwritten_eq]
  simpa [Stage.due, Stage.ahead] using hspells

theorem At.select {β : Type} {f : LogLine → Option β} {g : Act → Option β} {s : Pool}
    {stage : Stage} {phase : Phase} (h : s.At w stage phase)
    (hlog : s.params.loggerInUse.Steady) (hstart : f (.workerStarted w) = none)
    (hfg : ∀ a : Act, (a.lines w).filterMap f = (g a).toList) :
    (s.log w ++ s.unwritten w).filterMap f = (s.acts w).filterMap g := by
  have hlines : ((s.unwritten w).map Act.logged).filterMap Act.line? = s.unwritten w := by
    rw [List.filterMap_map]
    exact List.filterMap_some
  -- written or not, all lines are those of the spelled list, after the first one
  have hall : s.log w ++ s.unwritten w =
      .workerStarted w :: (spell w (s.acts w)).filterMap Act.line? := by
    have hspells := congrArg (List.filterMap Act.line?) (h.spells hlog)
    rwa [List.filterMap_append, hlines] at hspells
  rw [hall, List.filterMap_cons, hstart]
  exact filterMap_spell hfg _

/-- A selection that picks no line that a worker may be still to write picks the same
    of the lines that are written. -/
theorem filterMap_log {β : Type} {f : LogLine → Option β} (s : Pool)
    (hf : ∀ phase : Phase, (phase.unwritten w).filterMap f = []) :
    (s.log w).filterMap f = (s.log w ++ s.unwritten w).filterMap f := by
  have hnone : (s.unwritten w).filterMap f = [] := by
    unfold unwritten
    split
    · exact hf _
    · rfl
  rw [List.filterMap_append, hnone, List.append_nil]

/-- A worker on the protocol that is suspended or has ended leaves no line unwritten,
    and at most one run unfinished. -/
theorem At.unfinished_eq {s : Pool} {stage : Stage} {phase : Phase}
    (h : s.At w stage phase) (hrest : phase.suspended = true ∨ phase.ended = true) :
    s.unwritten w = [] ∧
      stage.unfinished (s.acts w) = (phase.underway || cutShort (s.acts w)).toNat := by
  have hcut := h.follows.cutShort_eq_false
  rw [h.unwritten_eq]
  cases h.shows with
  | receiving | inTask | deleting | yielding | pausing =>
    simp [Stage.due, Stage.unfinished, Phase.underway, hcut]
  | stopped | crashed => exact ⟨rfl, rfl⟩
  | fresh | ready | readyLeaving | idling | rested | restedLeaving | stopping | holding
  | owing | deleteFailed | finishing => simp [Phase.suspended, Phase.ended] at hrest

/-- The line about the start is the first one of a worker on the protocol, and there is
    no other. -/
theorem At.started_once {s : Pool} {stage : Stage} {phase : Phase} {x : Act}
    {post : List Act} (h : s.At w stage phase) (hlog : s.params.loggerInUse.Steady)
    (hx : s.acts w = x :: post) :
    x = .logged (.workerStarted w) ∧ ∀ v, .logged (.workerStarted v) ∉ post := by
  have hspells := h.spells hlog
  rw [hx, List.cons_append, List.cons.injEq, ← hx] at hspells
  refine ⟨hspells.1, fun v hmem => ?_⟩
  -- what follows the first line is spelled, and no event asks for such a line
  have hspell : .logged (.workerStarted v) ∈ spell w (s.acts w) :=
    hspells.2 ▸ List.mem_append_left _ hmem
  obtain ⟨a, -, ha⟩ := List.mem_flatMap.mp hspell
  exact a.started_not_mem_spelled w v ha

/-- A line about a task that is about to run stands right before the call. -/
theorem At.call_of_announced {s : Pool} {stage : Stage} {phase : Phase} {id : String}
    {pre post : List Act} (h : s.At w stage phase) (hlog : s.params.loggerInUse.Steady)
    (hx : s.acts w = pre ++ .logged (.processing id) :: post) :
    ∃ m rest, id = m.shownId ∧ post = .taskBegun m :: rest := by
  obtain ⟨a, b, -, hnext, hpost⟩ := h.around hx
  cases hnext with
  | choke _ hp => exact absurd hp hlog.not_mayPanic
  | say hs =>
    cases hs
    -- no worker rests between the line and the call
    cases hpost with
    | nil => cases h.shows
    | cons hy _ =>
      cases hy with
      | say hs | choke hs _ => cases hs
      | call => exact ⟨_, _, rfl, rfl⟩

theorem At.concluded_of_success {s : Pool} {stage : Stage} {phase : Phase} {m : Message}
    {pre post : List Act} (h : s.At w stage phase) (hlog : s.params.loggerInUse.Steady)
    (hx : s.acts w = pre ++ .taskEnded m .ok :: post) :
    Concluded m (post ++ (s.unwritten w).map Act.logged) := by
  obtain ⟨a, b, -, hnext, hpost⟩ := h.around hx
  cases hnext
  cases hpost with
  | nil => cases h.shows
  | cons hy hys =>
    cases hy with
    | say hs | choke hs _ => cases hs
    | delete =>
      rw [h.unwritten_eq]
      exact hys.concluded hlog h.shows

theorem At.silent_of_failure {s : Pool} {stage : Stage} {phase : Phase} {m : Message}
    {outcome : Outcome TaskError Thrown} {pre post : List Act} (h : s.At w stage phase)
    (hx : s.acts w = pre ++ .taskEnded m outcome :: post) (hne : outcome ≠ .ok) :
    ∀ x ∈ untilReceive (post ++ (s.unwritten w).map Act.logged), x.concludes = false := by
  obtain ⟨a, b, -, hnext, hpost⟩ := h.around hx
  rw [h.unwritten_eq]
  cases hnext with
  | succeed => exact absurd rfl hne
  | taskFailed | taskPanicked | taskCaught | disposalPanicked => exact hpost.silent rfl

theorem At.line_of_rejected {s : Pool} {stage : Stage} {phase : Phase} {e : PoolError}
    {pre post : List Act} (h : s.At w stage phase) (hlog : s.params.loggerInUse.Steady)
    (hx : s.acts w = pre ++ .reported e false :: post) :
    ∃ rest, post = .logged (.errorDropped e) :: rest := by
  obtain ⟨a, b, -, hnext, hpost⟩ := h.around hx
  cases hnext
  cases hpost with
  | nil => cases h.shows
  | cons hy _ =>
    cases hy with
    | choke _ hp => exact absurd hp hlog.not_mayPanic
    | say hs => cases hs <;> exact ⟨_, rfl⟩

/-- The line about the stop is the last one, and the worker exits with it. -/
theorem At.exit_of_stopped {s : Pool} {stage : Stage} {phase : Phase} {v : Nat}
    {pre post : List Act} (h : s.At w stage phase) (hlog : s.params.loggerInUse.Steady)
    (hx : s.acts w = pre ++ .logged (.workerStopped v) :: post) :
    v = w ∧ post = [.exited] := by
  obtain ⟨a, b, -, hnext, hpost⟩ := h.around hx
  cases hnext with
  | choke _ hp => exact absurd hp hlog.not_mayPanic
  | say hs =>
    obtain ⟨rfl, rfl⟩ : v = w ∧ b = .closing := by cases hs <;> exact ⟨rfl, rfl⟩
    -- the worker does not stand between the line and the exit, so the exit follows
    cases hpost with
    | nil => cases h.shows
    | cons hy hys =>
      cases hy with
      | say hs | choke hs _ => cases hs
      | exit => exact ⟨rfl, by rw [hys.of_ended.1]⟩

/-- A worker that exits has just written the line about the stop. -/
theorem At.stopped_of_exit {s : Pool} {stage : Stage} {phase : Phase}
    (h : s.At w stage phase) (hmem : .exited ∈ s.acts w) :
    ∃ pre, s.acts w = pre ++ [.logged (.workerStopped w), .exited] := by
  obtain ⟨pre, post, hx⟩ := List.append_of_mem hmem
  obtain ⟨a, b, hpre, hnext, hpost⟩ := h.around hx
  cases hnext
  obtain ⟨rfl, -⟩ := hpost.of_ended
  obtain ⟨ys, x, b, rfl, -, hlast⟩ := hpre.last (by rintro rfl; cases hpre)
  cases hlast with
  | say hs => cases hs <;> exact ⟨ys, by rw [hx]; simp⟩

/-- With a logger that does not panic, the log of a worker on the protocol accounts for
    what it has done, if its exits wait for the stop signal. -/
theorem At.accounts {s : Pool} {stage : Stage} {phase : Phase} (h : s.At w stage phase)
    (hlog : s.params.loggerInUse.Steady) (hstop : LeavesOnStop w s) : Accounts s w where
  spelled := h.spells hlog
  started := fun _ _ hx => h.started_once hlog hx
  announced := by
    intro pre m post hx
    obtain ⟨a, b, hpre, hnext, -⟩ := h.around hx
    cases hnext
    obtain ⟨ys, ms, rfl⟩ := hpre.before_announced
    exact ⟨ys ++ [.received (.messages (m :: ms))], by simp⟩
  announces := fun _ _ _ hx => h.call_of_announced hlog hx
  concluded := fun _ _ _ hx => h.concluded_of_success hlog hx
  unconcluded := fun _ _ _ _ hx hne => h.silent_of_failure hx hne
  rejected := fun _ _ _ hx => h.line_of_rejected hlog hx
  stopped := fun _ _ _ hx => h.exit_of_stopped hlog hx
  exited := fun hmem => ⟨hstop (.inr (.inr hmem)), h.stopped_of_exit hmem⟩
  runs := by
    -- the lines still to be written are of other kinds
    rw [filterMap_log s fun phase => by cases phase <;> rfl, List.map_filterMap]
    exact h.select hlog rfl (Act.lines_processing? w)
  deletes := by
    rw [List.map_filterMap]
    exact h.select hlog rfl (Act.lines_completed? w)
  errors := by
    rw [← List.filterMap_eq_filter]
    exact h.select hlog rfl (Act.lines_error w)
  dropped := by
    rw [filterMap_log s fun phase => by cases phase <;> rfl]
    exact h.select hlog rfl (Act.lines_dropped? w)
  unfinished := by
    intro phase' hphase hrest
    obtain rfl : phase' = phase := Option.some.inj (hphase.symm.trans h.phase_eq)
    obtain ⟨hunwritten, hopen⟩ := h.unfinished_eq hrest
    refine ⟨hunwritten, ?_⟩
    rw [← hopen]
    exact h.follows.count hlog

/-- **The log accounts for the run.** In every run of every pool that a start leaves with
    a logger that does not panic, the lines of each worker are those that its events ask
    for, where they ask for them. -/
theorem run_accounts {params : PoolParams} {around : Surroundings} {s : Pool}
    (hs : (start params around).running? = some s) (hlog : params.loggerInUse.Steady)
    (hw : w < params.workerCount) (labels : List Label) : Accounts (s.run labels) w := by
  have hl := launched_of_running hs
  obtain ⟨stage, phase, h⟩ := run_follows hl hw labels
  refine h.accounts ?_ (run_leavesOnStop hl w labels)
  rwa [params_run, hl.params_eq]

def fourMessages : List Response :=
  [⟨.messages [⟨some "1", some "h", none⟩], false⟩,
    ⟨.messages [⟨some "2", some "h", none⟩], false⟩,
    ⟨.messages [⟨none, some "h", none⟩], false⟩,
    ⟨.messages [⟨some "4", some "h", none⟩], false⟩]

/-- A worker with a delete that fails, a failed task, a task that panics while there is
    no room for its error, and the stop signal; another one in its task. -/
def accountedRun : List Label :=
  [List.replicate 4 (.run 1), List.replicate 4 (.run 0),
    [.task 0 (.finish .ok), .delete 0 (.finish (.failed (.delete "2" "gone")))],
    List.replicate 5 (.run 0), [.task 0 (.finish (.failed (.generic "bad")))],
    List.replicate 4 (.run 0), [.task 0 (.finish (.panicked (.plain (.text "boom"))))],
    [.run 0, .fireStop, .run 0, .run 0]].flatten

theorem run_accounts_pair :
    (start .pair { queue := fourMessages }).running? = some (pair fourMessages) ∧
    PoolParams.pair.loggerInUse.Steady ∧ 0 < PoolParams.pair.workerCount ∧
    Accounts ((pair fourMessages).run accountedRun) 0 ∧
    ((pair fourMessages).run accountedRun).log 0 =
      [.workerStarted 0, .processing "2", .deleteFailed "2" (.delete "2" "gone"),
        .completed "2", .processing "", .processing "4",
        .errorDropped (.task "4" (.panicked "boom")), .workerStopped 0] ∧
    runReports (((pair fourMessages).run accountedRun).acts 0) = 2 :=
  ⟨rfl, fun _ _ => rfl, by decide,
    run_accounts (pair_running _) (fun _ _ => rfl) (by decide) accountedRun, by decide,
    by decide⟩

end Pool

end ConsumerPool
