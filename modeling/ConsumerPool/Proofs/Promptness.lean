import ConsumerPool.Proofs.Ending
import ConsumerPool.Proofs.Pausing

/-! # Polling at Once

  A worker pauses only after a receive that came to nothing. When it has handled a
  message, and also after such a receive if there is no delay, it is never suspended
  before its next receive: its next turns lead there without waiting for the clock. -/

namespace ConsumerPool

variable {logger : Logger} {w : Nat}

/-! ### Acts after which a worker polls at once -/

namespace Act

/-- Whether an act ends the handling of a message: its task fails or panics, or its
    delete returns. -/
def endsHandling : Act → Bool
  | .taskEnded _ (.failed _) | .taskEnded _ (.panicked _) | .deleteEnded _ .ok
  | .deleteEnded _ (.failed _) => true
  | _ => false

/-- Whether an act ends the handling of a message, or, without a delay, is a receive that
    comes to nothing. -/
def frees (delay : Nat) (a : Act) : Bool :=
  a.endsHandling ||
    match a with
    | .received r => r.barren && decide (delay = 0)
    | _ => false

theorem frees_of_endsHandling {a : Act} (h : a.endsHandling = true) (delay : Nat) :
    a.frees delay = true := by
  simp only [frees, h, Bool.true_or]

end Act

namespace Stage

/-- Whether nothing but a report and lines is left to do before the next receive. -/
def swift (delay : Nat) : Stage → Bool
  | .ready | .closing | .recovering _ _ | .owing _ .poll | .rejected _ .poll
  | .deleteFailed _ _ | .finishing _ | .dying _ | .ended => true
  | .resting | .owing _ .idle | .rejected _ .idle => decide (delay = 0)
  | .fresh | .stopping | .receiving | .holding _ | .announced _ | .inTask _
  | .succeeded _ | .deleting _ => false

/-- Whether a message is in hand whose handling has not ended, unless by a panic. -/
def inHand : Stage → Bool
  | .holding _ | .announced _ | .inTask _ | .succeeded _ | .deleting _ | .dying _
  | .ended => true
  | .fresh | .ready | .resting | .stopping | .closing | .receiving | .recovering _ _
  | .owing _ _ | .rejected _ _ | .deleteFailed _ _ | .finishing _ => false

/-- Whether no pause stands before the next receive. -/
def unpaused : Stage → Bool
  | .ready | .stopping | .closing | .holding _ | .announced _ | .inTask _ | .succeeded _
  | .recovering _ _ | .owing _ .poll | .rejected _ .poll | .deleting _
  | .deleteFailed _ _ | .finishing _ | .dying _ | .ended => true
  | .fresh | .resting | .receiving | .owing _ .idle | .rejected _ .idle => false

end Stage

theorem Next.frees {delay : Nat} {a b : Stage} {x : Act} (h : Next logger w a x b)
    (hx : x.frees delay = true) : b.swift delay = true := by
  cases h with
  | taskFailed | taskPanicked | taskCaught | disposalPanicked | deleteOk | deleteFailed => rfl
  | deliverNone | receiveFailed =>
    simpa [Act.frees, Act.endsHandling, Received.barren, Stage.swift] using hx
  | _ => simp [Act.frees, Act.endsHandling, Received.barren] at hx

theorem Next.swift {delay : Nat} {a b : Stage} {x : Act} (h : Next logger w a x b)
    (ha : a.swift delay = true) (hx : x ≠ .receiveBegun) : b.swift delay = true := by
  cases h with
  | say hs =>
    cases hs with
    | dropAndIdle => exact ha
    | start | announce => simp [Stage.swift] at ha
    | stop | stopRested | stopSeen | dropAndPoll | logFailure | complete => rfl
  | receive | receiveRested => exact absurd rfl hx
  | pause | reportAndIdle => exact ha
  | @reject e after => cases after <;> exact ha
  | choke _ _ | crash | exit | transform | transformPanicked | reportAndPoll => rfl
  | abandon | deliver | deliverNone | receiveFailed | receivePanicked | call | succeed
  | delete | taskFailed | taskPanicked | taskCaught | disposalPanicked | deleteOk
  | deleteFailed | deletePanicked => simp [Stage.swift] at ha

theorem Follows.swift {delay : Nat} {a c : Stage} {xs : List Act}
    (h : Follows logger w a xs c) (ha : a.swift delay = true) (hxs : .receiveBegun ∉ xs) :
    c.swift delay = true := by
  induction h with
  | nil => exact ha
  | cons hx _ ih =>
    rw [List.mem_cons, not_or] at hxs
    exact ih (hx.swift ha (Ne.symm hxs.1)) hxs.2

theorem Next.unpaused {a b : Stage} {x : Act} (h : Next logger w a x b)
    (ha : a.unpaused = true) (hx : x ≠ .receiveBegun) :
    b.unpaused = true ∧ ∀ deadline, x ≠ .paused deadline := by
  cases h with
  | say hs =>
    cases hs with
    | start | stopRested | dropAndIdle => simp [Stage.unpaused] at ha
    | stop | stopSeen | announce | dropAndPoll | logFailure | complete =>
      exact ⟨rfl, by simp⟩
  | receive | receiveRested => exact absurd rfl hx
  | @reject e after =>
    cases after with
    | poll => exact ⟨rfl, by simp⟩
    | idle => simp [Stage.unpaused] at ha
  | pause | deliver | deliverNone | receiveFailed | receivePanicked | abandon
  | reportAndIdle => simp [Stage.unpaused] at ha
  | choke _ _ | crash | exit | call | succeed | delete | taskFailed | taskPanicked
  | taskCaught | disposalPanicked | transform | transformPanicked | reportAndPoll | deleteOk
  | deleteFailed | deletePanicked => exact ⟨rfl, by simp⟩

/-- From an unpaused stage on, no pause stands before the next receive. -/
theorem Follows.unpaused {a c : Stage} {xs : List Act} (h : Follows logger w a xs c)
    (ha : a.unpaused = true) (hxs : .receiveBegun ∉ xs) :
    ∀ deadline, .paused deadline ∉ xs := by
  induction h with
  | nil => simp
  | cons hx _ ih =>
    rw [List.mem_cons, not_or] at hxs
    obtain ⟨hb, hne⟩ := hx.unpaused ha (Ne.symm hxs.1)
    intro deadline hmem
    rcases List.mem_cons.mp hmem with heq | hmem
    · exact hne deadline heq.symm
    · exact ih hb hxs.2 deadline hmem

theorem Next.inHand {a b : Stage} {x : Act} (h : Next logger w a x b)
    (ha : a.inHand = true) (hx : x.endsHandling = false) :
    b.inHand = true ∧ x ≠ .receiveBegun := by
  cases h with
  | say hs =>
    cases hs with
    | announce => exact ⟨rfl, by simp⟩
    | start | stop | stopRested | stopSeen | dropAndPoll | dropAndIdle | logFailure
    | complete => simp [Stage.inHand] at ha
  | choke _ _ | crash | call | succeed | delete | deletePanicked => exact ⟨rfl, by simp⟩
  | taskFailed | taskPanicked | taskCaught | disposalPanicked | deleteOk | deleteFailed =>
    simp [Act.endsHandling] at hx
  | exit | receive | receiveRested | pause | abandon | deliver | deliverNone
  | receiveFailed | receivePanicked | transform | transformPanicked | reportAndPoll
  | reportAndIdle | reject => simp [Stage.inHand] at ha

/-- Before the next receive, some act ends the handling of a message in hand. -/
theorem Follows.endsHandling {a c : Stage} {xs ys : List Act}
    (h : Follows logger w a (xs ++ .receiveBegun :: ys) c) (ha : a.inHand = true) :
    ∃ x ∈ xs, x.endsHandling = true := by
  induction xs generalizing a with
  | nil =>
    cases h with
    | cons hx _ => exact absurd rfl (hx.inHand ha rfl).2
  | cons x xs ih =>
    cases h with
    | cons hx hrest =>
      by_cases hends : x.endsHandling = true
      · exact ⟨x, List.mem_cons_self, hends⟩
      · obtain ⟨y, hy, hyends⟩ := ih hrest (hx.inHand ha (by simpa using hends)).1
        exact ⟨y, List.mem_cons_of_mem x hy, hyends⟩

/-! ### Turns to the next receive -/

/-- How many turns of its own bring a worker into its next receive, if it need not wait
    for anything. -/
def Phase.turnsToReceive (delay now : Nat) : Phase → Option Nat
  | .polling => some 1
  | .finishing _ | .reporting _ .poll | .yielding => some 2
  | .deleteFailed _ _ => some 3
  | .idling => if delay = 0 then some 3 else none
  | .reporting _ .idle => if delay = 0 then some 4 else none
  | .pausing deadline => if deadline ≤ now then some 2 else none
  | .spawned | .receiving | .holding _ | .inTask _ | .deleting _ | .leaving | .stopped
  | .crashed _ => none

theorem Phase.turnsToReceive_reporting {delay now n : Nat} {e : PoolError}
    {after : AfterReport} (h : (Phase.reporting e after).turnsToReceive delay now = some n) :
    ∃ m, n = m + 1 ∧ (Phase.afterReport after).turnsToReceive delay now = some m := by
  cases after with
  | poll =>
    cases h
    exact ⟨1, rfl, rfl⟩
  | idle =>
    by_cases hd : delay = 0
    · simp only [turnsToReceive, if_pos hd, Option.some.injEq] at h
      exact ⟨3, h.symm, by simp [afterReport, turnsToReceive, hd]⟩
    · simp [turnsToReceive, hd] at h

/-- A worker at a swift stage leaves, has ended, or is on its way to the next receive. -/
theorem Stage.Shows.swift {delay : Nat} {a : Stage} {phase : Phase} (h : a.Shows phase)
    (ha : a.swift delay = true) (hp : ∀ deadline, phase ≠ .pausing deadline) (now : Nat) :
    phase.ended = true ∨ phase = .leaving ∨
      ∃ n ≤ 4, phase.turnsToReceive delay now = some n := by
  cases h with
  | ready | rested => exact .inr (.inr ⟨1, by decide, rfl⟩)
  | readyLeaving | restedLeaving => exact .inr (.inl rfl)
  | stopped | crashed => exact .inl rfl
  -- without a delay the worker yields instead
  | idling =>
    have hd : delay = 0 := of_decide_eq_true ha
    exact .inr (.inr ⟨3, by decide, by simp [Phase.turnsToReceive, hd]⟩)
  | yielding | finishing => exact .inr (.inr ⟨2, by decide, rfl⟩)
  | deleteFailed => exact .inr (.inr ⟨3, by decide, rfl⟩)
  | pausing => exact absurd rfl (hp _)
  | @owing e after =>
    cases after with
    | poll => exact .inr (.inr ⟨2, by decide, rfl⟩)
    | idle =>
      have hd : delay = 0 := of_decide_eq_true ha
      exact .inr (.inr ⟨4, by decide, by simp [Phase.turnsToReceive, hd]⟩)
  | stopping | fresh | receiving | holding | inTask | deleting => simp [Stage.swift] at ha

namespace Pool

theorem canRun_of_turnsToReceive {s : Pool} {phase : Phase} {n : Nat}
    (hw : s.workers[w]? = some phase)
    (hn : phase.turnsToReceive s.params.emptyPollDelay s.clock = some n) :
    s.canRun w = true := by
  unfold canRun
  rw [hw]
  cases phase with
  | pausing deadline =>
    have hd : deadline ≤ s.clock := by
      by_contra hlate
      simp [Phase.turnsToReceive, hlate] at hn
    simp [hd]
  | spawned | receiving | holding _ | inTask _ | deleting _ | leaving | stopped
  | crashed _ => simp [Phase.turnsToReceive] at hn
  | _ => rfl

/-- A turn of a worker on its way to the next receive begins it or brings the worker
    nearer, unless the logger panics. -/
theorem Turn.approaches {s : Pool} {phase : Phase} {e : Effect} {n : Nat}
    (ht : Turn s w (.run w) phase e) (hw : s.workers[w]? = some phase)
    (hs : s.stop = false)
    (hn : phase.turnsToReceive s.params.emptyPollDelay s.clock = some n) :
    e.stop = false ∧ (∀ deadline, .paused deadline ∉ e.acts) ∧
      ∃ m, n = m + 1 ∧
        ((∃ p line, e.phase = .crashed p ∧ s.params.loggerInUse.MayPanic line p) ∨
        (e.acts = [.receiveBegun] ∧ e.phase = .receiving) ∨
        e.phase.turnsToReceive s.params.emptyPollDelay s.clock = some m) := by
  cases ht with
  | wait hrun =>
    rw [canRun_of_turnsToReceive hw hn] at hrun
    cases hrun
  -- the signal has not fired
  | pollStopped h | idleStopped _ h | yieldStopped h | pauseStopped h =>
    rw [hs] at h
    cases h
  | pollBegin _ =>
    cases hn
    exact ⟨hs, by simp [effect], 0, rfl, .inr (.inl ⟨rfl, rfl⟩)⟩
  -- the logger has a line first, and may panic on it
  | logFailure | complete =>
    cases hn
    simp only [spoken]
    split
    · exact ⟨hs, by simp [effect], _, rfl, .inr (.inr rfl)⟩
    · next p hp => exact ⟨hs, by simp [effect], _, rfl, .inl ⟨p, _, rfl, s.lines, hp⟩⟩
  | reportTaken _ =>
    obtain ⟨m, rfl, hm⟩ := Phase.turnsToReceive_reporting hn
    exact ⟨hs, by simp [effect], m, rfl, .inr (.inr hm)⟩
  | reportDropped _ =>
    obtain ⟨m, rfl, hm⟩ := Phase.turnsToReceive_reporting hn
    simp only [spoken]
    split
    · exact ⟨hs, by simp [effect], m, rfl, .inr (.inr hm)⟩
    · next p hp => exact ⟨hs, by simp [effect], m, rfl, .inl ⟨p, _, rfl, s.lines, hp⟩⟩
  | yield hd =>
    simp only [Phase.turnsToReceive, if_pos hd] at hn
    cases hn
    exact ⟨hs, by simp [effect], 2, rfl, .inr (.inr rfl)⟩
  | pauseBegin hd _ =>
    simp only [Phase.turnsToReceive, if_neg hd] at hn
    cases hn
  | yieldOver _ =>
    cases hn
    exact ⟨hs, by simp [effect], 1, rfl, .inr (.inr rfl)⟩
  | pauseOver _ hd =>
    simp only [Phase.turnsToReceive, if_pos hd] at hn
    cases hn
    exact ⟨hs, by simp [effect], 1, rfl, .inr (.inr rfl)⟩
  | start | abandon _ | deliver _ _ | deliverNone _ _ | receiveFailed _ _
  | receivePanicked _ _ | call | leave => simp [Phase.turnsToReceive] at hn

/-- The worker begins a receive within so many turns of its own, without a pause and
    while the clock stands still, unless a panic of the logger ends it on the way. -/
def PollsWithin (s : Pool) (w n : Nat) : Prop :=
  ∃ k ≤ n, ∃ acts : List Act,
    (s.run (List.replicate k (.run w))).moments w =
      s.moments w ++ acts.map (Prod.mk s.clock) ∧
    (∀ deadline, .paused deadline ∉ acts) ∧
    (((s.run (List.replicate k (.run w))).workers[w]? = some .receiving ∧
        acts.getLast? = some .receiveBegun) ∨
      ∃ p line, (s.run (List.replicate k (.run w))).workers[w]? = some (.crashed p) ∧
        s.params.loggerInUse.MayPanic line p)

/-- A worker that need not wait for anything polls. -/
theorem pollsWithin_of_turnsToReceive {s : Pool} {phase : Phase} {n : Nat}
    (hw : s.workers[w]? = some phase) (hs : s.stop = false)
    (hn : phase.turnsToReceive s.params.emptyPollDelay s.clock = some n) :
    s.PollsWithin w n := by
  induction n generalizing s phase with
  | zero =>
    obtain ⟨e, ht, -⟩ := turn_of_run hw
    obtain ⟨-, -, m, hm, -⟩ := ht.approaches hw hs hn
    omega
  | succ n ih =>
    obtain ⟨e, ht, he⟩ := turn_of_step (l := .run w) rfl hw
    obtain ⟨hstop, hpaused, m, hm, hnext⟩ := ht.approaches hw hs hn
    obtain rfl : n = m := Nat.succ.inj hm
    have hmoments := moments_apply_self s w e
    have hphase := phase_apply_self hw e
    -- it ends by the panic of the logger, begins the receive, or is one turn nearer
    rcases hnext with ⟨p, line, hp, hpanic⟩ | ⟨hacts, hp⟩ | hturns
    · refine ⟨1, by omega, e.acts, ?_, hpaused, .inr ⟨p, line, ?_, hpanic⟩⟩
      · rw [List.replicate_one, run_cons, run_nil, he, hmoments]
      · rw [List.replicate_one, run_cons, run_nil, he, hphase, hp]
    · refine ⟨1, by omega, e.acts, ?_, hpaused, .inl ⟨?_, by rw [hacts]; rfl⟩⟩
      · rw [List.replicate_one, run_cons, run_nil, he, hmoments]
      · rw [List.replicate_one, run_cons, run_nil, he, hphase, hp]
    · obtain ⟨k, hk, acts, hrest, hnone, hend⟩ := ih (s := s.apply w e) hphase hstop hturns
      refine ⟨k + 1, by omega, e.acts ++ acts, ?_, ?_, ?_⟩
      · rw [List.replicate_succ, run_cons, he, hrest, hmoments, List.map_append,
          List.append_assoc]
        rfl
      · intro deadline hmem
        rcases List.mem_append.mp hmem with hmem | hmem
        · exact hpaused deadline hmem
        · exact hnone deadline hmem
      · rw [List.replicate_succ, run_cons, he]
        rcases hend with ⟨hreceiving, hlast⟩ | hcrashed
        · exact .inl ⟨hreceiving, by rw [List.getLast?_append, hlast]; rfl⟩
        · exact .inr hcrashed

/-! ### Without a delay -/

/-- A worker never pauses. -/
def NeverPauses (s : Pool) (w : Nat) : Prop :=
  (∀ deadline, s.workers[w]? ≠ some (.pausing deadline)) ∧
    ∀ deadline, .paused deadline ∉ s.acts w

/-- Without a delay no turn is a pause. -/
theorem Turn.never_pauses {s : Pool} {l : Label} {phase : Phase} {e : Effect}
    (ht : Turn s w l phase e) (hd : s.params.emptyPollDelay = 0)
    (hp : ∀ deadline, phase ≠ .pausing deadline) :
    (∀ deadline, e.phase ≠ .pausing deadline) ∧
      ∀ deadline, .paused deadline ∉ e.acts := by
  cases ht with
  | wait _ | noTask _ | noDelete _ => exact ⟨hp, by simp [effect]⟩
  | pauseBegin h _ => exact absurd hd h
  | start | call | logFailure | complete | leave =>
    simp only [spoken]
    split <;> simp [effect]
  | @reportDropped _ after _ =>
    simp only [spoken]
    split <;> cases after <;> simp [effect, Phase.afterReport]
  | @reportTaken _ after _ => cases after <;> simp [effect, Phase.afterReport]
  | _ => simp [effect]

theorem run_neverPauses {params : PoolParams} {around : Surroundings} {s : Pool}
    (hs : Launched params around s) (hd : params.emptyPollDelay = 0) (w : Nat)
    (labels : List Label) : (s.run labels).NeverPauses w := by
  -- the parameters are kept along with it, since each step needs the delay
  have hkept : (s.run labels).params = params ∧ (s.run labels).NeverPauses w := by
    apply run_invariant (I := fun t => t.params = params ∧ t.NeverPauses w)
    · refine ⟨hs.params_eq, fun deadline hw => ?_, fun deadline => ?_⟩
      · cases hs.phase hw
      · simp [hs.acts_eq_nil]
    · intro t l ⟨hparams, hphase, hacts⟩
      refine ⟨by rw [params_step, hparams], ?_⟩
      rcases step_view t l w with ⟨hsame, hstay⟩ | ⟨phase, e, hp, ht, he⟩
      · unfold NeverPauses
        rw [hsame, hstay]
        exact ⟨hphase, hacts⟩
      · have hnot : ∀ deadline, phase ≠ .pausing deadline := by
          rintro deadline rfl
          exact hphase deadline hp
        obtain ⟨hnext, hnews⟩ := ht.never_pauses (hparams ▸ hd) hnot
        constructor
        · intro deadline hw
          rw [he, phase_apply_self hp] at hw
          exact hnext deadline (Option.some.inj hw)
        · intro deadline hmem
          rw [he, acts_apply_self, List.mem_append] at hmem
          exact hmem.elim (hacts deadline) (hnews deadline)
  exact hkept.2

/-! ### The clock stands still -/

/-- Along a run the clock moves only while the worker waits, as it does where it moves only
    when nobody has anything left to do. -/
def ClockWaits (s : Pool) (w : Nat) : List Label → Prop
  | [] => True
  | l :: ls => (0 < l.duration → s.canRun w = false) ∧ (s.step l).ClockWaits w ls

instance decidableClockWaits : (s : Pool) → (labels : List Label) →
    Decidable (s.ClockWaits w labels)
  | _, [] => .isTrue trivial
  | s, l :: ls =>
    have : Decidable ((s.step l).ClockWaits w ls) := decidableClockWaits (s.step l) ls
    inferInstanceAs (Decidable (_ ∧ _))

theorem clockWaits_append {s : Pool} {ls ms : List Label} :
    s.ClockWaits w (ls ++ ms) ↔ s.ClockWaits w ls ∧ (s.run ls).ClockWaits w ms := by
  induction ls generalizing s with
  | nil => simp [ClockWaits]
  | cons l ls ih => simp [ClockWaits, ih, and_assoc]

section

variable {params : PoolParams} {around : Surroundings} {s : Pool} {labels : List Label}
variable {pre mid : List (Nat × Act)} {t : Nat} {x : Act}

/-- Where a worker stands that has been freed and has not begun a receive since: it
    leaves, has ended, or is on its way to the next receive. -/
theorem freed_phase (hs : Launched params around s) (hw : w < params.workerCount)
    (h : (s.run labels).moments w = pre ++ (t, x) :: mid)
    (hfrees : x.frees params.emptyPollDelay = true)
    (hmid : .receiveBegun ∉ mid.map Prod.snd) :
    ∃ phase, (s.run labels).workers[w]? = some phase ∧
      (phase.ended = true ∨ phase = .leaving ∨
        ∃ n ≤ 4, phase.turnsToReceive params.emptyPollDelay (s.run labels).clock =
          some n) := by
  obtain ⟨stage, phase, hat⟩ := run_follows hs hw labels
  obtain ⟨a, b, -, hnext, hpost⟩ := hat.around (acts_of_moments h)
  have hswift : stage.swift params.emptyPollDelay = true :=
    hpost.swift (hnext.frees hfrees) hmid
  have hshows := hat.shows
  refine ⟨phase, hat.phase_eq, hshows.swift hswift ?_ _⟩
  rintro deadline rfl
  -- a pause would be swift only without a delay, and then there is none
  cases hshows
  exact (run_neverPauses hs (of_decide_eq_true hswift) w labels).1 deadline hat.phase_eq

/-- As long as a worker that has been freed lives and begins no receive, it can take a
    step. -/
theorem canRun_of_freed (hs : Launched params around s) (hw : w < params.workerCount)
    (h : (s.run labels).moments w = pre ++ (t, x) :: mid)
    (hfrees : x.frees params.emptyPollDelay = true)
    (hmid : .receiveBegun ∉ mid.map Prod.snd) (hlive : (s.run labels).IsLive w) :
    (s.run labels).canRun w = true := by
  obtain ⟨phase, hphase, hcases⟩ := freed_phase hs hw h hfrees hmid
  obtain ⟨phase', hphase', hended⟩ := hlive
  obtain rfl : phase' = phase := Option.some.inj (hphase'.symm.trans hphase)
  -- it is live, so it leaves or is on its way to the receive
  rcases hcases with hend | rfl | ⟨n, -, hn⟩
  · rw [hend] at hended
    cases hended
  · simp [canRun, hphase]
  · refine canRun_of_turnsToReceive hphase (n := n) ?_
    rw [params_run, hs.params_eq]
    exact hn

theorem isLive_of_step {s : Pool} {l : Label} (h : (s.step l).IsLive w) : s.IsLive w := by
  have hlt : w < s.workers.length := by
    rw [← length_workers_step s l]
    exact (isLive_or_hasEnded_iff (s.step l) w).mp (.inl h)
  rcases (isLive_or_hasEnded_iff s w).mpr hlt with hlive | hended
  · exact hlive
  · -- a worker that has ended stays so
    obtain ⟨phase, hphase, hend⟩ := hended
    have hkeeps := HasEnded.keeps ⟨phase, hphase, hend⟩ l
    have hstays : (s.step l).HasEnded w := ⟨phase, hkeeps.1.trans hphase, hend⟩
    exact absurd h hstays.not_isLive

/-- As long as a worker that has been freed lives and begins no receive, the clock shows
    the time at which it was freed, if it moves only while the worker waits. -/
theorem clock_of_freed (hs : Launched params around s) (hw : w < params.workerCount)
    (hwaits : s.ClockWaits w labels)
    (h : (s.run labels).moments w = pre ++ (t, x) :: mid)
    (hfrees : x.frees params.emptyPollDelay = true)
    (hmid : .receiveBegun ∉ mid.map Prod.snd)
    (hlive : (s.run labels).IsLive w) : (s.run labels).clock = t := by
  -- by the last step: it frees the worker, or the worker was free before and has not waited
  induction labels using List.reverseRecOn generalizing mid with
  | nil =>
    rw [run_nil, moments_eq_nil (hs.acts_eq_nil w)] at h
    simp at h
  | append_singleton ls l ih =>
    have hrun : s.run (ls ++ [l]) = (s.run ls).step l := run_append s ls [l]
    obtain ⟨hbefore, hlast, -⟩ := clockWaits_append.mp hwaits
    have hclock := (time_step (s.run ls) l).1
    rw [hrun] at hlive ⊢
    rw [hrun, moments_step] at h
    rcases append_eq_append_cons h with ⟨rest, hold, rfl⟩ | ⟨before, -, hnew⟩
    · have hrest : .receiveBegun ∉ rest.map Prod.snd := by
        intro hmem
        exact hmid (by rw [List.map_append]; exact List.mem_append_left _ hmem)
      have hlived := isLive_of_step hlive
      have hcan := canRun_of_freed hs hw hold hfrees hrest hlived
      have hstill : l.duration = 0 := by
        by_contra hmoves
        rw [hlast (Nat.pos_of_ne_zero hmoves)] at hcan
        cases hcan
      have hthen : (s.run ls).clock = t := ih hbefore hold hrest hlived
      omega
    · obtain ⟨_, _, hacts, rfl, hrest⟩ := List.map_eq_append_iff.mp hnew
      obtain ⟨y, _, rfl, hy, -⟩ := List.map_eq_cons_iff.mp hrest
      obtain ⟨rfl, rfl⟩ := Prod.mk.inj hy
      -- the worker does something in this step, so no clock moves
      have hstill : l.duration = 0 := by
        rcases news_view (s.run ls) l w with ⟨hnil, -⟩ | ⟨_, _, _, ht, -, -⟩
        · rw [hnil] at hacts
          simp at hacts
        · exact Label.duration_of_actor ht.actor
      omega

/-- If the clock moves only while the worker waits, a worker that has been freed begins
    its next receive at the same reading of the clock. -/
theorem receive_of_freed {t' : Nat} {post : List (Nat × Act)} (hs : Launched params around s)
    (hw : w < params.workerCount) (hwaits : s.ClockWaits w labels)
    (h : (s.run labels).moments w = pre ++ (t, x) :: mid ++ (t', .receiveBegun) :: post)
    (hfrees : x.frees params.emptyPollDelay = true)
    (hmid : .receiveBegun ∉ mid.map Prod.snd) : t' = t := by
  obtain ⟨ls, l, ls', rfl, hphase, hmoments, hclock⟩ :=
    exists_step_of_receive (moments_eq_nil (hs.acts_eq_nil w)) h
  have hlive : (s.run ls).IsLive w := ⟨.polling, hphase, rfl⟩
  have hthen := clock_of_freed hs hw (clockWaits_append.mp hwaits).1 hmoments hfrees hmid hlive
  rw [← hclock, hthen]

/-- A worker that has been freed polls, unless it has seen the stop signal or panicked. -/
theorem pollsWithin_of_freed (hs : Launched params around s) (hw : w < params.workerCount)
    (h : (s.run labels).moments w = pre ++ (t, x) :: mid)
    (hfrees : x.frees params.emptyPollDelay = true)
    (hmid : .receiveBegun ∉ mid.map Prod.snd) (hstop : (s.run labels).stop = false)
    (hpanic : ∀ p, (s.run labels).workers[w]? ≠ some (.crashed p)) :
    (s.run labels).PollsWithin w 4 := by
  obtain ⟨phase, hphase, hcases⟩ := freed_phase hs hw h hfrees hmid
  have hleaves := run_leavesOnStop hs w labels
  -- a worker that leaves or has left has seen the stop signal
  have hstay : ¬(phase = .leaving ∨ phase = .stopped) := by
    rintro (rfl | rfl)
    · rw [hleaves (.inl hphase)] at hstop
      cases hstop
    · rw [hleaves (.inr (.inl hphase))] at hstop
      cases hstop
  rcases hcases with hended | hleaving | ⟨n, hn, hturns⟩
  · cases phase with
    | stopped => exact absurd (.inr rfl) hstay
    | crashed p => exact absurd hphase (hpanic p)
    | _ => cases hended
  · exact absurd (.inl hleaving) hstay
  · have hpolls : (s.run labels).PollsWithin w n := by
      refine pollsWithin_of_turnsToReceive hphase hstop ?_
      rw [params_run, hs.params_eq]
      exact hturns
    obtain ⟨k, hk, hrest⟩ := hpolls
    exact ⟨k, Nat.le_trans hk hn, hrest⟩

end

end Pool

end ConsumerPool
