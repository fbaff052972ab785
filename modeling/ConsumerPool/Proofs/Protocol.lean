import ConsumerPool.Proofs.Turn

/-! # The Protocol of a Worker

  What a worker may do next depends on what it has done. A stage is a point
  of this protocol and `Next` its rules; `Follows` chains them. Every run of
  a pool makes every worker follow the protocol (`run_follows`), so whatever
  holds of all lists of acts that follow it holds of all workers in all runs. -/

namespace ConsumerPool

/-! ### Stages and rules -/

/-- A point of the protocol. -/
inductive Stage where
  | fresh
  /-- A receive may begin at once. -/
  | ready
  /-- A receive may begin, and a pause before it. -/
  | resting
  | stopping
  /-- The last line is written. -/
  | closing
  | receiving
  | holding (message : Message)
  /-- The message is announced in the log. -/
  | announced (message : Message)
  | inTask (message : Message)
  | succeeded (message : Message)
  /-- The task has panicked and a transform is to be called. -/
  | recovering (message : Message) (payload : Payload)
  | owing (error : PoolError) (after : AfterReport)
  | rejected (error : PoolError) (after : AfterReport)
  | deleting (message : Message)
  | deleteFailed (message : Message) (error : PoolError)
  | finishing (message : Message)
  /-- Something has panicked. -/
  | dying (payload : Payload)
  | ended

/-- Whether a logger panics with this payload on some such line. -/
def Logger.MayPanic (logger : Logger) (line : LogLine) (p : Payload) : Prop :=
  ∃ n, logger.panics n line = some p

/-- The lines that are due at a stage, and the stage after each. -/
inductive Says (w : Nat) : Stage → LogLine → Stage → Prop where
  | start : Says w .fresh (.workerStarted w) .ready
  | stop : Says w .ready (.workerStopped w) .closing
  | stopRested : Says w .resting (.workerStopped w) .closing
  | stopSeen : Says w .stopping (.workerStopped w) .closing
  | announce {m} : Says w (.holding m) (.processing m.shownId) (.announced m)
  | dropAndPoll {e} : Says w (.rejected e .poll) (.errorDropped e) .ready
  | dropAndIdle {e} : Says w (.rejected e .idle) (.errorDropped e) .resting
  | logFailure {m e} :
      Says w (.deleteFailed m e) (.deleteFailed m.shownId e) (.finishing m)
  | complete {m} : Says w (.finishing m) (.completed m.shownId) .ready

/-- The rules of the protocol for one worker. -/
inductive Next (logger : Logger) (w : Nat) : Stage → Act → Stage → Prop where
  | say {a b line} : Says w a line b → Next logger w a (.logged line) b
  /-- Instead of going on after a line, the worker dies of the logger's panic. -/
  | choke {a b line p} : Says w a line b → logger.MayPanic line p →
      Next logger w a (.logged line) (.dying p)
  | crash {p} : Next logger w (.dying p) (.crashed p) .ended
  | exit : Next logger w .closing .exited .ended
  | receive : Next logger w .ready .receiveBegun .receiving
  | receiveRested : Next logger w .resting .receiveBegun .receiving
  | pause {d} : Next logger w .resting (.paused d) .resting
  | abandon : Next logger w .receiving .receiveAbandoned .stopping
  | deliver {m ms} :
      Next logger w .receiving (.received (.messages (m :: ms))) (.holding m)
  | deliverNone : Next logger w .receiving (.received (.messages [])) .resting
  | receiveFailed {e} : Next logger w .receiving (.received (.failed e)) (.owing e .idle)
  | receivePanicked {p} : Next logger w .receiving (.received (.panicked p)) (.dying p)
  | call {m} : Next logger w (.announced m) (.taskBegun m) (.inTask m)
  | succeed {m} : Next logger w (.inTask m) (.taskEnded m .ok) (.succeeded m)
  | delete {m} : Next logger w (.succeeded m) (.deleteBegun m) (.deleting m)
  | taskFailed {m source} : Next logger w (.inTask m) (.taskEnded m (.failed source))
      (.owing (.task m.shownId source) .poll)
  | taskPanicked {m p} : Next logger w (.inTask m) (.taskEnded m (.panicked (.plain p)))
      (.owing (.task m.shownId p.recovered) .poll)
  | taskCaught {m p} :
      Next logger w (.inTask m) (.taskEnded m (.panicked (.plain p))) (.recovering m p)
  | disposalPanicked {m q} :
      Next logger w (.inTask m) (.taskEnded m (.panicked (.fragile q))) (.dying q)
  | transform {m p origin source} :
      Next logger w (.recovering m p) (.transformed origin p.recovered)
        (.owing (.task m.shownId source) .poll)
  | transformPanicked {m p origin q} :
      Next logger w (.recovering m p) (.transformed origin p.recovered) (.dying q)
  | reportAndPoll {e} : Next logger w (.owing e .poll) (.reported e true) .ready
  | reportAndIdle {e} : Next logger w (.owing e .idle) (.reported e true) .resting
  | reject {e after} :
      Next logger w (.owing e after) (.reported e false) (.rejected e after)
  | deleteOk {m} : Next logger w (.deleting m) (.deleteEnded m .ok) (.finishing m)
  | deleteFailed {m e} :
      Next logger w (.deleting m) (.deleteEnded m (.failed e)) (.deleteFailed m e)
  | deletePanicked {m p} :
      Next logger w (.deleting m) (.deleteEnded m (.panicked p)) (.dying p)

/-- Chains of rules. -/
inductive Follows (logger : Logger) (w : Nat) : Stage → List Act → Stage → Prop where
  | nil {a} : Follows logger w a [] a
  | cons {a b c x xs} : Next logger w a x b → Follows logger w b xs c →
      Follows logger w a (x :: xs) c

/-- The phases that a worker can be in at a stage. -/
inductive Stage.Shows : Stage → Phase → Prop where
  | fresh : Shows .fresh .spawned
  | ready : Shows .ready .polling
  | readyLeaving : Shows .ready .leaving
  | idling : Shows .resting .idling
  | yielding : Shows .resting .yielding
  | pausing {d} : Shows .resting (.pausing d)
  | rested : Shows .resting .polling
  | restedLeaving : Shows .resting .leaving
  | stopping : Shows .stopping .leaving
  | receiving : Shows .receiving .receiving
  | holding {m} : Shows (.holding m) (.holding m)
  | inTask {m} : Shows (.inTask m) (.inTask m)
  | owing {e after} : Shows (.owing e after) (.reporting e after)
  | deleting {m} : Shows (.deleting m) (.deleting m)
  | deleteFailed {m e} : Shows (.deleteFailed m e) (.deleteFailed m e)
  | finishing {m} : Shows (.finishing m) (.finishing m)
  | stopped : Shows .ended .stopped
  | crashed {p} : Shows .ended (.crashed p)

namespace Follows

variable {logger : Logger} {w : Nat} {a b c : Stage} {x : Act} {xs ys : List Act}

theorem single (h : Next logger w a x b) : Follows logger w a [x] b := .cons h .nil

theorem append (h : Follows logger w a xs b) (h' : Follows logger w b ys c) :
    Follows logger w a (xs ++ ys) c := by
  induction h with
  | nil => exact h'
  | cons hx _ ih => exact .cons hx (ih h')

theorem split (h : Follows logger w a (xs ++ ys) c) :
    ∃ b, Follows logger w a xs b ∧ Follows logger w b ys c := by
  induction xs generalizing a with
  | nil => exact ⟨a, .nil, h⟩
  | cons x xs ih =>
    cases h with
    | cons hx hxs =>
      obtain ⟨b, h₁, h₂⟩ := ih hxs
      exact ⟨b, .cons hx h₁, h₂⟩

theorem last (h : Follows logger w a xs c) (hne : xs ≠ []) :
    ∃ ys x b, xs = ys ++ [x] ∧ Follows logger w a ys b ∧ Next logger w b x c := by
  obtain ⟨ys, x, rfl⟩ := (List.eq_nil_or_concat xs).resolve_left hne
  rw [List.concat_eq_append] at h ⊢
  obtain ⟨b, h₁, h₂⟩ := split h
  cases h₂ with
  | cons hx hnil =>
    cases hnil
    exact ⟨ys, x, b, rfl, h₁, hx⟩

end Follows

/-! ### Every worker follows the protocol -/

namespace Pool

/-- A stage that a worker may be at: its acts lead there, and its phase shows. -/
structure At (s : Pool) (w : Nat) (stage : Stage) (phase : Phase) : Prop where
  follows : Follows s.params.loggerInUse w .fresh (s.acts w) stage
  shows : stage.Shows phase
  phase_eq : s.workers[w]? = some phase

/-- Speaking a line is a chain of rules if going on after it would be. -/
theorem follows_spoken {s : Pool} {w : Nat} {a b c d : Stage} {line : LogLine}
    {first acts : List Act} {phase : Phase}
    (hfirst : Follows s.params.loggerInUse w a first b)
    (hline : Says w b line c)
    (hacts : Follows s.params.loggerInUse w c acts d) (hshows : d.Shows phase) :
    ∃ d', Follows s.params.loggerInUse w a (s.spoken first line acts phase).acts d' ∧
      d'.Shows (s.spoken first line acts phase).phase := by
  unfold spoken
  split
  · exact ⟨d, hfirst.append (.cons (.say hline) hacts), hshows⟩
  · next p hp =>
    have hdie : Next s.params.loggerInUse w b (.logged line) (.dying p) :=
      .choke hline ⟨s.lines, hp⟩
    exact ⟨.ended, hfirst.append (.cons hdie (.single .crash)), .crashed⟩

/-- A turn goes on with the protocol from any stage that shows. -/
theorem follows_turn {s : Pool} {w : Nat} {l : Label} {phase : Phase} {e : Effect}
    {a : Stage} (ht : Turn s w l phase e) (ha : a.Shows phase) :
    ∃ b, Follows s.params.loggerInUse w a e.acts b ∧ b.Shows e.phase := by
  -- the turn gives the phase, and with it the stages that are left of `a`
  cases ht with
  | wait _ | noTask _ | noDelete _ => exact ⟨a, .nil, ha⟩
  | start => cases ha; exact follows_spoken .nil .start .nil .ready
  | pollStopped _ =>
    cases ha with
    | ready => exact ⟨.ready, .nil, .readyLeaving⟩
    | rested => exact ⟨.resting, .nil, .restedLeaving⟩
  | pollBegin _ =>
    cases ha with
    | ready => exact ⟨_, .single .receive, .receiving⟩
    | rested => exact ⟨_, .single .receiveRested, .receiving⟩
  | abandon _ => cases ha; exact ⟨_, .single .abandon, .stopping⟩
  | deliver _ _ => cases ha; exact ⟨_, .single .deliver, .holding⟩
  | deliverNone _ _ => cases ha; exact ⟨_, .single .deliverNone, .idling⟩
  | receiveFailed _ _ => cases ha; exact ⟨_, .single .receiveFailed, .owing⟩
  | receivePanicked _ _ =>
    cases ha
    exact ⟨_, .cons .receivePanicked (.single .crash), .crashed⟩
  | call => cases ha; exact follows_spoken .nil .announce (.single .call) .inTask
  | @reportTaken _ after _ =>
    cases ha
    cases after with
    | poll => exact ⟨_, .single .reportAndPoll, .ready⟩
    | idle => exact ⟨_, .single .reportAndIdle, .idling⟩
  | @reportDropped _ after _ =>
    cases ha
    cases after with
    | poll => exact follows_spoken (.single .reject) .dropAndPoll .nil .ready
    | idle => exact follows_spoken (.single .reject) .dropAndIdle .nil .idling
  | logFailure => cases ha; exact follows_spoken .nil .logFailure .nil .finishing
  | complete => cases ha; exact follows_spoken .nil .complete .nil .ready
  | yield _ => cases ha; exact ⟨_, .nil, .yielding⟩
  | idleStopped _ _ => cases ha; exact ⟨_, .nil, .restedLeaving⟩
  | pauseBegin _ _ => cases ha; exact ⟨_, .single .pause, .pausing⟩
  | yieldStopped _ => cases ha; exact ⟨_, .nil, .restedLeaving⟩
  | yieldOver _ => cases ha; exact ⟨_, .nil, .rested⟩
  | pauseStopped _ => cases ha; exact ⟨_, .nil, .restedLeaving⟩
  | pauseOver _ _ => cases ha; exact ⟨_, .nil, .rested⟩
  | leave =>
    -- the phase does not tell where the worker saw the stop signal
    cases ha with
    | readyLeaving => exact follows_spoken .nil .stop (.single .exit) .stopped
    | restedLeaving => exact follows_spoken .nil .stopRested (.single .exit) .stopped
    | stopping => exact follows_spoken .nil .stopSeen (.single .exit) .stopped
  | taskStop => cases ha; exact ⟨_, .nil, .inTask⟩
  | taskOk => cases ha; exact ⟨_, .cons .succeed (.single .delete), .deleting⟩
  | taskFailed => cases ha; exact ⟨_, .single .taskFailed, .owing⟩
  | taskPanicked _ => cases ha; exact ⟨_, .single .taskPanicked, .owing⟩
  | taskRecovered _ _ =>
    cases ha
    exact ⟨_, .cons .taskCaught (.single .transform), .owing⟩
  | taskLost _ _ =>
    cases ha
    exact ⟨_, .cons .taskCaught (.cons .transformPanicked (.single .crash)), .crashed⟩
  | disposalPanicked =>
    cases ha
    exact ⟨_, .cons .disposalPanicked (.single .crash), .crashed⟩
  | deleteStop => cases ha; exact ⟨_, .nil, .deleting⟩
  | deleteOk => cases ha; exact ⟨_, .single .deleteOk, .finishing⟩
  | deleteFailed => cases ha; exact ⟨_, .single .deleteFailed, .deleteFailed⟩
  | deletePanicked =>
    cases ha
    exact ⟨_, .cons .deletePanicked (.single .crash), .crashed⟩

theorem At.step {s : Pool} {w : Nat} {stage : Stage} {phase : Phase}
    (h : s.At w stage phase) (l : Label) :
    ∃ stage' phase', (s.step l).At w stage' phase' := by
  obtain ⟨hfol, hshows, hphase⟩ := h
  rcases step_view s l w with ⟨hacts, hsame⟩ | ⟨phase', e, hp, ht, he⟩
  · refine ⟨stage, phase, ?_, hshows, hsame.trans hphase⟩
    rw [params_step, hacts]
    exact hfol
  · obtain rfl : phase' = phase := Option.some.inj (hp.symm.trans hphase)
    -- its own turn goes on from the stage that shows
    obtain ⟨b, hturn, hb⟩ := follows_turn ht hshows
    refine ⟨b, e.phase, ?_, hb, ?_⟩
    · rw [params_step, he, acts_apply_self]
      exact hfol.append hturn
    · rw [he]
      exact phase_apply_self hp e

/-- **Every worker follows the protocol**, in every run from every start. -/
theorem run_follows {params : PoolParams} {around : Surroundings} {s : Pool}
    (hs : Launched params around s) {w : Nat} (hw : w < params.workerCount)
    (labels : List Label) : ∃ stage phase, (s.run labels).At w stage phase := by
  -- the stage is the invariant: it sums up the acts so far
  apply run_invariant (I := fun t => ∃ stage phase, t.At w stage phase)
  · refine ⟨.fresh, .spawned, ?_, .fresh, ?_⟩
    · rw [hs.acts_eq_nil]
      exact .nil
    · rw [hs.workers_eq]
      exact List.getElem?_replicate_of_lt hw
  · intro t l ⟨stage, phase, h⟩
    exact h.step l

/-- An act of a worker on the protocol stands between two chains. -/
theorem At.around {s : Pool} {w : Nat} {stage : Stage} {phase : Phase}
    (h : s.At w stage phase) {pre post : List Act} {x : Act}
    (hx : s.acts w = pre ++ x :: post) :
    ∃ a b, Follows s.params.loggerInUse w .fresh pre a ∧
      Next s.params.loggerInUse w a x b ∧ Follows s.params.loggerInUse w b post stage := by
  have hfol := h.follows
  rw [hx] at hfol
  obtain ⟨a, hpre, hrest⟩ := hfol.split
  cases hrest with
  | cons hnext hpost => exact ⟨a, _, hpre, hnext, hpost⟩

end Pool

end ConsumerPool
