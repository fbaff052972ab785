import ConsumerPool.Proofs.Handling
import ConsumerPool.Proofs.Moments

/-! # Pauses

  After a receive that comes to nothing a worker pauses before the next one. The report
  of a receive error comes before that pause, so it is as far from the next receive. A
  worker that has to rest until the clock shows `due` rests in every step, whoever takes
  it: this is the invariant, and a receive begins at a phase where it says that the clock
  is there. -/

namespace ConsumerPool

variable {w : Nat}

/-! ### Timers that keep a duration -/

namespace Timer

/-- Up to some reading of the clock, a sleep of this duration lasts as long as it was
    asked to. -/
def Keeps (timer : Timer) (duration last : Nat) : Prop :=
  ∀ now ≤ last, timer.deadline now duration = now + duration

/-- The standard timer keeps durations of up to thirty years, until it has no more
    readings of the clock. -/
theorem keeps_standard {duration last : Nat} (hd : duration ≤ Time.ofMillis 946080000000)
    (hlast : last + duration ≤ Time.ofMillis 18446744073709551613) :
    standard.Keeps duration last := by
  intro now hnow
  have hsum : now + duration ≤ Time.ofMillis 18446744073709551613 := by omega
  simp only [deadline, standard, capped, if_pos hd, if_pos hsum]

end Timer

/-! ### Receives that come to nothing -/

/-- Whether a receive comes to nothing: it ends without a message or with an error. -/
def Received.barren : Received → Bool
  | .messages [] | .failed _ => true
  | .messages (_ :: _) | .panicked _ => false

/-- Whether an act after others calls for a pause: a receive that comes to nothing, or the
    report of a receive error. -/
inductive Act.Tires : List (Nat × Act) → Act → Prop where
  | barren {pre r} : r.barren = true → Tires pre (.received r)
  | report {pre t e e' taken} :
      Tires (pre ++ [(t, .received (.failed e))]) (.reported e' taken)

/-- Whether a worker in a phase begins no receive before the clock shows `due`: its pause
    is to begin or lasts until then, it leaves or has ended, or the clock is there. -/
def Phase.RestsUntil (due now : Nat) : Phase → Prop
  | .reporting _ .idle | .idling | .leaving | .stopped | .crashed _ => True
  | .pausing deadline => due ≤ deadline
  | .spawned | .polling | .receiving | .holding _ | .inTask _ | .reporting _ .poll
  | .deleting _ | .deleteFailed _ _ | .finishing _ | .yielding => due ≤ now

theorem Phase.RestsUntil.later {due now now' : Nat} {phase : Phase}
    (h : phase.RestsUntil due now) (hle : now ≤ now') : phase.RestsUntil due now' := by
  cases phase with
  | reporting e after =>
    cases after with
    | idle => trivial
    | poll => exact Nat.le_trans h hle
  | idling | leaving | stopped | crashed _ => trivial
  | pausing deadline => exact h
  | spawned | polling | receiving | holding _ | inTask _ | deleting _ | deleteFailed _ _
  | finishing _ | yielding => exact Nat.le_trans h hle

theorem Phase.RestsUntil.afterReport {due now : Nat} {e : PoolError} {after : AfterReport}
    (h : (Phase.reporting e after).RestsUntil due now) :
    (Phase.afterReport after).RestsUntil due now := by
  cases after with
  | poll => exact h
  | idle => trivial

namespace Pool

/-! ### Pauses in full -/

/-- Up to some reading of the clock, a pause lasts for the delay. -/
def PausesInFull (s : Pool) (last : Nat) : Prop :=
  0 < s.params.emptyPollDelay → s.timer.Keeps s.params.emptyPollDelay last

theorem PausesInFull.mono {s : Pool} {last last' : Nat} (h : s.PausesInFull last')
    (hle : last ≤ last') : s.PausesInFull last :=
  fun hd now hnow => h hd now (Nat.le_trans hnow hle)

theorem timer_run (s : Pool) (labels : List Label) : (s.run labels).timer = s.timer :=
  run_invariant (I := fun t => t.timer = s.timer) rfl
    (fun t l h => by rw [(time_step t l).2, h]) labels

theorem PausesInFull.later {s : Pool} {last : Nat} (h : s.PausesInFull last)
    (labels : List Label) : (s.run labels).PausesInFull last := by
  unfold PausesInFull
  rw [timer_run, params_run]
  exact h

/-! ### Turns of a worker that rests -/

/-- A worker that speaks rests if it has to rest when it goes on. -/
theorem restsUntil_spoken {s : Pool} {due : Nat} {first acts : List Act} {line : LogLine}
    {phase : Phase} (h : phase.RestsUntil due s.clock) :
    (s.spoken first line acts phase).phase.RestsUntil due s.clock := by
  unfold spoken
  split
  · exact h
  · trivial

/-- No turn ends the rest of a worker, if a pause lasts for the delay. -/
theorem Turn.rests {s : Pool} {l : Label} {phase : Phase} {e : Effect} {due : Nat}
    (ht : Turn s w l phase e) (htimer : s.PausesInFull s.clock)
    (hdue : due ≤ s.clock + s.params.emptyPollDelay) (h : phase.RestsUntil due s.clock) :
    e.phase.RestsUntil due s.clock := by
  cases ht with
  | wait _ | noTask _ | noDelete _ => exact h
  -- the one place where the length of a pause counts
  | pauseBegin hd _ =>
    show due ≤ s.timer.deadline s.clock s.params.emptyPollDelay
    rw [htimer (Nat.pos_of_ne_zero hd) s.clock (Nat.le_refl _)]
    exact hdue
  | pauseOver _ hd => exact Nat.le_trans h hd
  | yield hd =>
    show due ≤ s.clock
    omega
  | reportTaken _ => exact h.afterReport
  | reportDropped _ => exact restsUntil_spoken h.afterReport
  | start | call | logFailure | complete => exact restsUntil_spoken h
  | leave => exact restsUntil_spoken trivial
  | pollStopped _ | abandon _ | deliverNone _ _ | receiveFailed _ _ | receivePanicked _ _
  | idleStopped _ _ | yieldStopped _ | pauseStopped _ | taskLost _ _ | disposalPanicked
  | deletePanicked => trivial
  | pollBegin _ | deliver _ _ | yieldOver _ | taskStop | taskOk | taskFailed
  | taskPanicked _ | taskRecovered _ _ | deleteStop | deleteOk | deleteFailed => exact h

/-- After a receive that comes to nothing a worker has to rest, however long. -/
theorem Turn.tires {s : Pool} {l : Label} {phase : Phase} {e : Effect} {r : Received}
    (ht : Turn s w l phase e) (hmem : .received r ∈ e.acts) (hr : r.barren = true)
    (due : Nat) : e.phase.RestsUntil due s.clock := by
  cases ht with
  | deliverNone _ _ | receiveFailed _ _ => trivial
  | deliver _ _ | receivePanicked _ _ =>
    simp [effect] at hmem
    subst hmem
    simp [Received.barren] at hr
  | start | call | reportDropped _ | logFailure | complete | leave =>
    simp only [spoken] at hmem
    split at hmem <;> simp [effect] at hmem
  | _ => simp [effect] at hmem

theorem Turn.report_first {s : Pool} {l : Label} {phase : Phase} {e : Effect} {err : PoolError}
    {taken : Bool} {before after : List Act} (ht : Turn s w l phase e)
    (h : e.acts = before ++ .reported err taken :: after) : before = [] := by
  cases before with
  | nil => rfl
  | cons y ys =>
    exfalso
    have hmem : .reported err taken ∈ e.acts.tail := by
      rw [h]
      exact List.mem_append_cons_self
    cases ht with
    | start | call | reportDropped _ | logFailure | complete | leave =>
      simp only [spoken] at hmem
      split at hmem <;> simp [effect] at hmem
    | _ => simp [effect] at hmem

/-- A pause that begins lasts until the timer says so. -/
theorem Turn.pauses {s : Pool} {l : Label} {phase : Phase} {e : Effect} {deadline : Nat}
    (ht : Turn s w l phase e) (hmem : .paused deadline ∈ e.acts) :
    0 < s.params.emptyPollDelay ∧
      deadline = s.timer.deadline s.clock s.params.emptyPollDelay := by
  cases ht with
  | pauseBegin hd _ =>
    simp [effect] at hmem
    exact ⟨Nat.pos_of_ne_zero hd, hmem⟩
  | start | call | reportDropped _ | logFailure | complete | leave =>
    simp only [spoken] at hmem
    split at hmem <;> simp [effect] at hmem
  | _ => simp [effect] at hmem

/-! ### Runs of a worker that rests -/

/-- A worker begins no receive before the clock shows `due`, which is no further away than
    the delay. -/
structure Rests (s : Pool) (w due : Nat) : Prop where
  near : due ≤ s.clock + s.params.emptyPollDelay
  phase : ∃ phase, s.workers[w]? = some phase ∧ phase.RestsUntil due s.clock

theorem Rests.step {s : Pool} {due : Nat} (h : s.Rests w due)
    (htimer : s.PausesInFull s.clock) (l : Label) : (s.step l).Rests w due := by
  have hclock := clock_le_step s l
  obtain ⟨hnear, phase, hphase, hrests⟩ := h
  constructor
  · rw [params_step]
    omega
  · rcases news_view s l w with ⟨-, hstay⟩ | ⟨phase', e, hp, ht, hnext, -⟩
    · exact ⟨phase, by rw [hstay, hphase], hrests.later hclock⟩
    · obtain rfl : phase' = phase := Option.some.inj (hp.symm.trans hphase)
      exact ⟨e.phase, hnext, (ht.rests htimer hnear hrests).later hclock⟩

theorem Rests.run {s : Pool} {due : Nat} (h : s.Rests w due) {labels : List Label}
    (htimer : s.PausesInFull (s.run labels).clock) : (s.run labels).Rests w due := by
  -- the clock is bounded by its last reading in each step, so the induction is on the labels
  induction labels generalizing s with
  | nil => exact h
  | cons l ls ih =>
    rw [run_cons] at htimer ⊢
    have hclock := Nat.le_trans (clock_le_step s l) (clock_le_run (s.step l) ls)
    exact ih (h.step (htimer.mono hclock) l) (htimer.later [l])

section

variable {params : PoolParams} {around : Surroundings} {s : Pool} {labels : List Label}
variable {pre mid : List (Nat × Act)} {t : Nat} {x : Act}

/-- A worker that reports right after a receive error pauses then. -/
theorem reporting_idle (hs : Launched params around s) (hw : w < params.workerCount)
    {e : PoolError} {phase : Phase} {xs : List Act}
    (hacts : (s.run labels).acts w = xs ++ [.received (.failed e)])
    (hphase : (s.run labels).workers[w]? = some phase) : phase = .reporting e .idle := by
  obtain ⟨stage, phase', hat⟩ := run_follows hs hw labels
  obtain rfl : phase' = phase := Option.some.inj (hat.phase_eq.symm.trans hphase)
  obtain ⟨a, b, -, hnext, hrest⟩ := hat.around hacts
  cases hrest
  cases hnext
  cases hat.shows
  rfl

/-- After an act that calls for a pause a worker rests for the delay. -/
theorem rests_of_tiring (hs : Launched params around s) (hw : w < params.workerCount)
    (htimer : s.PausesInFull (s.run labels).clock)
    (h : (s.run labels).moments w = pre ++ (t, x) :: mid) (hx : x.Tires pre) :
    (s.run labels).Rests w (t + params.emptyPollDelay) := by
  obtain ⟨ls, l, ls', phase, e, before, after, rfl, hp, ht, hnext, hacts, hpre, rfl⟩ :=
    exists_turn_of_moment (moments_eq_nil (hs.acts_eq_nil w)) h
  have hparams : (s.run ls).params = params := by rw [params_run, hs.params_eq]
  have hlater : s.run (ls ++ l :: ls') = ((s.run ls).step l).run ls' :=
    run_append s ls (l :: ls')
  rw [hlater] at htimer ⊢
  have hclock := clock_le_step (s.run ls) l
  have hclock' := clock_le_run ((s.run ls).step l) ls'
  -- the worker rests from this step on
  have hrests : ((s.run ls).step l).Rests w ((s.run ls).clock + params.emptyPollDelay) := by
    cases hx with
    | @barren _ r hr =>
      have hmem : .received r ∈ e.acts := by
        rw [hacts]
        exact List.mem_append_cons_self
      refine ⟨?_, e.phase, hnext, (ht.tires hmem hr _).later hclock⟩
      rw [params_step, hparams]
      omega
    | @report xs t₀ err _ _ =>
      -- the report is the first act of its turn, so the worker rests before the turn
      obtain rfl : before = [] := ht.report_first hacts
      have hmoments : (s.run ls).moments w = xs ++ [(t₀, .received (.failed err))] := by
        rw [hpre, List.map_nil, List.append_nil]
      obtain rfl : phase = .reporting err .idle :=
        reporting_idle hs hw (acts_of_moments hmoments) hp
      have hbefore : (s.run ls).Rests w ((s.run ls).clock + params.emptyPollDelay) :=
        ⟨Nat.le_of_eq (by rw [hparams]), _, hp, trivial⟩
      exact hbefore.step ((htimer.mono (Nat.le_trans hclock hclock')).later ls) l
  exact hrests.run ((htimer.later ls).later [l])

/-- **Rest.** After an act that calls for a pause no receive begins before the delay has
    passed. -/
theorem receive_of_tiring {t' : Nat} {post : List (Nat × Act)} (hs : Launched params around s)
    (hw : w < params.workerCount)
    (htimer : s.PausesInFull (s.run labels).clock)
    (h : (s.run labels).moments w = pre ++ (t, x) :: mid ++ (t', .receiveBegun) :: post)
    (hx : x.Tires pre) : t + params.emptyPollDelay ≤ t' := by
  obtain ⟨ls, l, ls', rfl, hphase, hmoments, rfl⟩ :=
    exists_step_of_receive (moments_eq_nil (hs.acts_eq_nil w)) h
  have hclock := clock_le_append s ls (l :: ls')
  obtain ⟨-, phase, hp, hrests⟩ :=
    rests_of_tiring hs hw (htimer.mono hclock) hmoments hx
  obtain rfl : phase = .polling := Option.some.inj (hp.symm.trans hphase)
  exact hrests

theorem deadline_of_paused (hs : Launched params around s) {deadline : Nat}
    (htimer : s.PausesInFull (s.run labels).clock)
    (h : (t, .paused deadline) ∈ (s.run labels).moments w) :
    deadline = t + params.emptyPollDelay := by
  obtain ⟨pre, post, hmoments⟩ := List.append_of_mem h
  obtain ⟨ls, l, ls', phase, e, before, after, rfl, -, ht, -, hacts, -, rfl⟩ :=
    exists_turn_of_moment (moments_eq_nil (hs.acts_eq_nil w)) hmoments
  have hmem : .paused deadline ∈ e.acts := by
    rw [hacts]
    exact List.mem_append_cons_self
  obtain ⟨hd, hdeadline⟩ := ht.pauses hmem
  rw [hdeadline, ← hs.params_eq, ← params_run s ls]
  exact htimer.later ls hd _ (clock_le_append s ls (l :: ls'))

theorem begun_before_received {r : Received} (hs : Launched params around s)
    (hw : w < params.workerCount)
    (h : (s.run labels).moments w = pre ++ (t, .received r) :: mid) :
    ∃ before t₀, pre = before ++ [(t₀, .receiveBegun)] := by
  obtain ⟨stage, phase, hat⟩ := run_follows hs hw labels
  obtain ⟨a, b, hbefore, hnext, -⟩ := hat.around (acts_of_moments h)
  have ha : a = .receiving := by
    cases hnext <;> rfl
  subst ha
  obtain ⟨ys, hys⟩ := hbefore.before_receiving
  obtain ⟨before, last, rfl, -, hlast⟩ := List.map_eq_append_iff.mp hys
  obtain ⟨⟨t₀, y⟩, rfl, rfl⟩ := List.map_eq_singleton_iff.mp hlast
  exact ⟨before, t₀, rfl⟩

end

end Pool

end ConsumerPool
