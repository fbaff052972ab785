import ConsumerPool.Proofs.Promptness
import ConsumerPool.Proofs.Shutdown
import Mathlib.Data.List.Pairwise

/-! # Pacing

  The pace of a worker's polls. A receive that comes to nothing costs the worker the
  delay, so such receives, and the reports of receive errors, are at least the delay
  apart, and a window of the clock holds few of them. A message costs nothing: the next
  receive begins when its handling has ended. -/

namespace ConsumerPool

variable {w : Nat}

/-! ### Rates -/

/-- The readings of the clock that a test picks from two moments in a row. -/
def picked (pick : Nat × Act → Nat × Act → Option Nat) : List (Nat × Act) → List Nat
  | a :: b :: rest => (pick a b).toList ++ picked pick (b :: rest)
  | [_] | [] => []

theorem mem_picked {pick : Nat × Act → Nat × Act → Option Nat} {moments : List (Nat × Act)}
    {t : Nat} (h : t ∈ picked pick moments) :
    ∃ pre a b post, moments = pre ++ a :: b :: post ∧ pick a b = some t := by
  induction moments with
  | nil => simp [picked] at h
  | cons a rest ih =>
    cases rest with
    | nil => simp [picked] at h
    | cons b rest =>
      simp only [picked, List.mem_append, Option.mem_toList] at h
      rcases h with hpick | hlater
      · exact ⟨[], a, b, rest, rfl, hpick⟩
      · obtain ⟨pre, a', b', post, hrest, hpick⟩ := ih hlater
        exact ⟨a :: pre, a', b', post, by rw [hrest]; rfl, hpick⟩

/-- If each reading that is picked is related to those picked further on, they are related
    in pairs. -/
theorem pairwise_picked {pick : Nat × Act → Nat × Act → Option Nat} {R : Nat → Nat → Prop}
    {moments : List (Nat × Act)}
    (h : ∀ pre a b post t pre' a' b' post' t', moments = pre ++ a :: b :: post →
      pick a b = some t → b :: post = pre' ++ a' :: b' :: post' → pick a' b' = some t' →
      R t t') : (picked pick moments).Pairwise R := by
  induction moments with
  | nil => exact .nil
  | cons a rest ih =>
    cases rest with
    | nil => exact .nil
    | cons b rest =>
      have htail : (picked pick (b :: rest)).Pairwise R := by
        refine ih fun pre a' b' post t => ?_
        intro pre' a'' b'' post' t' hrest
        exact h (a :: pre) a' b' post t pre' a'' b'' post' t' (by rw [hrest]; rfl)
      rw [picked, List.pairwise_append]
      refine ⟨?_, htail, fun t ht t' ht' => ?_⟩
      · cases pick a b <;> simp
      · obtain ⟨pre', a', b', post', hrest, hpick'⟩ := mem_picked ht'
        exact h [] a b rest t pre' a' b' post' t' rfl (Option.mem_toList.mp ht) hrest hpick'

/-- Readings of the clock that are a distance apart and lie in a window cover it. -/
theorem length_mul_le_of_apart {d lo hi : Nat} {times : List Nat} {t : Nat}
    (hapart : (t :: times).Pairwise fun t t' => t + d ≤ t') (hlo : lo ≤ t)
    (hhi : ∀ t' ∈ t :: times, t' ≤ hi) : lo + times.length * d ≤ hi := by
  induction times generalizing t lo with
  | nil =>
    have ht := hhi t List.mem_cons_self
    simp only [List.length_nil]
    omega
  | cons t' times ih =>
    have hgap : t + d ≤ t' := (List.pairwise_cons.mp hapart).1 t' List.mem_cons_self
    -- from the second reading on, the window is shorter by the distance
    have hrest : lo + d + times.length * d ≤ hi :=
      ih (List.pairwise_cons.mp hapart).2 (by omega)
        fun u hu => hhi u (List.mem_cons_of_mem t hu)
    rw [List.length_cons, Nat.succ_mul]
    omega

/-- At least the delay apart, readings of the clock are few in a window. -/
theorem length_window_le {d : Nat} (hd : 0 < d) {times : List Nat}
    (hapart : times.Pairwise fun t t' => t + d ≤ t') (from_ length : Nat) :
    (times.filter fun t => from_ ≤ t ∧ t ≤ from_ + length).length ≤ length / d + 1 := by
  have hwindow := hapart.filter fun t => from_ ≤ t ∧ t ≤ from_ + length
  have hmem : ∀ t ∈ times.filter fun t => from_ ≤ t ∧ t ≤ from_ + length,
      from_ ≤ t ∧ t ≤ from_ + length := by
    intro t ht
    exact of_decide_eq_true (List.mem_filter.mp ht).2
  cases hlist : times.filter fun t => from_ ≤ t ∧ t ≤ from_ + length with
  | nil => simp
  | cons t rest =>
    rw [hlist] at hwindow hmem
    -- the readings in the window, but for the first one, cover that many distances
    have hcover := length_mul_le_of_apart hwindow (hmem t List.mem_cons_self).1
      fun t' ht' => (hmem t' ht').2
    have hfew : rest.length ≤ length / d := by
      rw [Nat.le_div_iff_mul_le hd]
      omega
    rw [List.length_cons]
    omega

/-- When a receive began that came to nothing. -/
def barrenAt : Nat × Act → Nat × Act → Option Nat
  | (t, .receiveBegun), (_, .received r) => if r.barren then some t else none
  | _, _ => none

/-- When a receive error was reported. -/
def reportAt : Nat × Act → Nat × Act → Option Nat
  | (_, .received (.failed _)), (t, .reported _ _) => some t
  | _, _ => none

theorem barrenAt_eq_some {a b : Nat × Act} {t : Nat} (h : barrenAt a b = some t) :
    ∃ t' r, a = (t, .receiveBegun) ∧ b = (t', .received r) ∧ r.barren = true := by
  unfold barrenAt at h
  split at h
  · next t t' r =>
    split at h
    · next hr => exact ⟨t', r, by rw [← Option.some.inj h], rfl, hr⟩
    · cases h
  · cases h

theorem reportAt_eq_some {a b : Nat × Act} {t : Nat} (h : reportAt a b = some t) :
    ∃ t' e e' taken, a = (t', .received (.failed e)) ∧ b = (t, .reported e' taken) := by
  unfold reportAt at h
  split at h
  · next t' e t e' taken => exact ⟨t', e, e', taken, rfl, by rw [← Option.some.inj h]⟩
  · cases h

namespace Pool

def barrenReceives (s : Pool) (w : Nat) : List Nat := picked barrenAt (s.moments w)

def receiveReports (s : Pool) (w : Nat) : List Nat := picked reportAt (s.moments w)

section

variable {params : PoolParams} {around : Surroundings} {s : Pool} {labels : List Label}

/-- Receives that come to nothing are begun at least the delay apart. -/
theorem barrenReceives_apart (hs : Launched params around s) (hw : w < params.workerCount)
    (htimer : s.PausesInFull (s.run labels).clock) :
    ((s.run labels).barrenReceives w).Pairwise fun t t' => t + params.emptyPollDelay ≤ t' := by
  refine pairwise_picked ?_
  intro pre a b post t pre' a' b' post' t' hmoments hpick hrest hpick'
  obtain ⟨t₁, r, rfl, rfl, hr⟩ := barrenAt_eq_some hpick
  obtain ⟨t₂, r', rfl, rfl, -⟩ := barrenAt_eq_some hpick'
  have hle : t ≤ t₁ := (run_inOrder hs w labels).le hmoments List.mem_cons_self
  -- the other receive begins after this one has ended
  cases pre' with
  | nil => simp at hrest
  | cons c mid =>
    obtain ⟨rfl, rfl⟩ := List.cons.inj hrest
    have hmoments' : (s.run labels).moments w = (pre ++ [(t, .receiveBegun)]) ++
        (t₁, .received r) :: mid ++ (t', .receiveBegun) :: (t₂, .received r') :: post' := by
      rw [hmoments]
      simp
    have hgap := receive_of_tiring hs hw htimer hmoments' (.barren hr)
    omega

/-- Receive errors are reported at least the delay apart. -/
theorem receiveReports_apart (hs : Launched params around s) (hw : w < params.workerCount)
    (htimer : s.PausesInFull (s.run labels).clock) :
    ((s.run labels).receiveReports w).Pairwise fun t t' => t + params.emptyPollDelay ≤ t' := by
  refine pairwise_picked ?_
  intro pre a b post t pre' a' b' post' t' hmoments hpick hrest hpick'
  obtain ⟨t₀, e₀, e, taken, rfl, rfl⟩ := reportAt_eq_some hpick
  obtain ⟨t₁, e₁, e', taken', rfl, rfl⟩ := reportAt_eq_some hpick'
  cases pre' with
  | nil => simp at hrest
  | cons c mid =>
    obtain ⟨rfl, rfl⟩ := List.cons.inj hrest
    have hmoments' : (s.run labels).moments w =
        (pre ++ (t₀, .received (.failed e₀)) :: (t, .reported e taken) :: mid) ++
          (t₁, .received (.failed e₁)) :: (t', .reported e' taken') :: post' := by
      rw [hmoments]
      simp
    -- a receive begins between the two reports
    obtain ⟨before, tb, hbefore⟩ := begun_before_received hs hw hmoments'
    have hlast : mid.getLast? = some (tb, .receiveBegun) := by
      have heq := congrArg List.getLast? hbefore
      cases mid with
      | nil => simp at heq
      | cons c mid => simpa using heq
    obtain ⟨init, rfl⟩ := List.getLast?_eq_some_iff.mp hlast
    have hmoments'' : (s.run labels).moments w =
        (pre ++ [(t₀, .received (.failed e₀))]) ++ (t, .reported e taken) :: init ++
          (tb, .receiveBegun) :: (t₁, .received (.failed e₁)) ::
            (t', .reported e' taken') :: post' := by
      rw [hmoments']
      simp
    have hgap := receive_of_tiring hs hw htimer hmoments'' .report
    have hle : tb ≤ t' :=
      (run_inOrder hs w labels).le (b := (t', .reported e' taken')) hmoments'' (by simp)
    omega

/-- Once it has handled a message a worker goes on without a pause. -/
theorem unpaused_of_delivery (hs : Launched params around s) (hw : w < params.workerCount)
    {pre mid post : List (Nat × Act)} {t t' : Nat} {m : Message} {ms : List Message}
    (h : (s.run labels).moments w =
      pre ++ (t, .received (.messages (m :: ms))) :: mid ++ (t', .receiveBegun) :: post)
    (hmid : .receiveBegun ∉ mid.map Prod.snd) :
    (∃ a ∈ mid, a.2.endsHandling = true) ∧ ∀ deadline, .paused deadline ∉ mid.map Prod.snd := by
  obtain ⟨stage, phase, hat⟩ := run_follows hs hw labels
  rw [List.append_assoc, List.cons_append] at h
  obtain ⟨a, b, -, hnext, hpost⟩ := hat.around (acts_of_moments h)
  obtain rfl : b = .holding m := by
    cases hnext
    rfl
  rw [List.map_append, List.map_cons] at hpost
  obtain ⟨x, hx, hends⟩ := hpost.endsHandling rfl
  obtain ⟨b, hmost, -⟩ := hpost.split
  obtain ⟨moment, hmem, rfl⟩ := List.mem_map.mp hx
  exact ⟨⟨moment, hmem, hends⟩, hmost.unpaused rfl hmid⟩

/-- If the clock moves only while the worker waits, the receive after a message begins when
    the handling of the message has ended. -/
theorem receive_of_handled (hs : Launched params around s) (hw : w < params.workerCount)
    (hwaits : s.ClockWaits w labels) {pre mid post : List (Nat × Act)} {t t' : Nat}
    {m : Message} {ms : List Message}
    (h : (s.run labels).moments w =
      pre ++ (t, .received (.messages (m :: ms))) :: mid ++ (t', .receiveBegun) :: post)
    (hmid : .receiveBegun ∉ mid.map Prod.snd) :
    ∃ x, (t', x) ∈ mid ∧ x.endsHandling = true := by
  obtain ⟨⟨⟨te, x⟩, hmem, hends⟩, -⟩ := unpaused_of_delivery hs hw h hmid
  obtain ⟨before, after, rfl⟩ := List.append_of_mem hmem
  -- what ends the handling frees the worker
  have hmoments : (s.run labels).moments w =
      (pre ++ (t, .received (.messages (m :: ms))) :: before) ++ (te, x) :: after ++
        (t', .receiveBegun) :: post := by
    rw [h]
    simp
  have hafter : .receiveBegun ∉ after.map Prod.snd := by
    intro hbegun
    rw [List.map_append, List.map_cons] at hmid
    exact hmid (List.mem_append_right _ (List.mem_cons_of_mem _ hbegun))
  have hsame : t' = te := receive_of_freed hs hw hwaits hmoments
    (Act.frees_of_endsHandling hends params.emptyPollDelay) hafter
  rw [hsame]
  exact ⟨x, hmem, hends⟩

end

theorem leaves_of_pausing {s : Pool} {deadline : Nat}
    (hphase : s.workers[w]? = some (.pausing deadline)) (hstop : s.stop = true) :
    (s.step (.run w)).workers[w]? = some .leaving := by
  obtain ⟨e, ht, he⟩ := turn_of_step (l := .run w) rfl hphase
  rw [he, phase_apply_self hphase]
  cases ht with
  | wait hrun => simp [canRun, hphase, hstop] at hrun
  | pauseStopped _ => rfl
  | pauseOver hs _ =>
    rw [hstop] at hs
    cases hs

theorem yields_of_idling {s : Pool} (hd : s.params.emptyPollDelay = 0)
    (hphase : s.workers[w]? = some .idling) :
    (s.step (.run w)).workers[w]? = some .yielding := by
  obtain ⟨e, ht, he⟩ := turn_of_step (l := .run w) rfl hphase
  rw [he, phase_apply_self hphase]
  cases ht with
  | wait hrun => simp [canRun, hphase] at hrun
  | yield _ => rfl
  | idleStopped h _ | pauseBegin h _ => exact absurd hd h

theorem resumes_of_yielding {s : Pool} (hphase : s.workers[w]? = some .yielding) :
    (s.step (.run w)).workers[w]? = some (if s.stop then .leaving else .polling) := by
  obtain ⟨e, ht, he⟩ := turn_of_step (l := .run w) rfl hphase
  rw [he, phase_apply_self hphase]
  cases ht with
  | wait hrun => simp [canRun, hphase] at hrun
  | yieldStopped h | yieldOver h =>
    rw [h]
    rfl

/-! ### The guarantee -/

/-- How a worker paces its polls. -/
structure Paces (s : Pool) (w : Nat) : Prop where
  /-- After a receive that comes to nothing the next ones begin once the delay has passed
      on the clock. -/
  rests : ∀ {pre mid post t r t'}, s.moments w =
    pre ++ (t, .received r) :: mid ++ (t', .receiveBegun) :: post → r.barren = true →
      t + s.params.emptyPollDelay ≤ t'
  /-- A pause is to last for the delay. -/
  lasts : ∀ {t deadline}, (t, .paused deadline) ∈ s.moments w →
    deadline = t + s.params.emptyPollDelay
  /-- When it is over, and the stop signal has not fired, the worker polls. -/
  resumes : ∀ {deadline}, s.workers[w]? = some (.pausing deadline) → s.stop = false →
    deadline ≤ s.clock → s.PollsWithin w 2
  /-- If the stop signal has fired, the worker leaves, even if the pause is over. -/
  leaves : ∀ {deadline}, s.workers[w]? = some (.pausing deadline) → s.stop = true →
    (s.step (.run w)).workers[w]? = some .leaving
  /-- Once it has fired, no receive begins. -/
  stops : s.stop = true → ∀ later, ∃ new,
    (s.run later).acts w = s.acts w ++ new ∧ .receiveBegun ∉ new
  /-- Between a receive that yields a message and the next one the handling of the message
      ends, and there is no pause. -/
  unpaused : ∀ {pre mid post t m ms t'}, s.moments w =
    pre ++ (t, .received (.messages (m :: ms))) :: mid ++ (t', .receiveBegun) :: post →
      .receiveBegun ∉ mid.map Prod.snd →
      (∃ a ∈ mid, a.2.endsHandling = true) ∧ ∀ deadline, .paused deadline ∉ mid.map Prod.snd
  /-- From the end of the handling on, and without a delay also from a receive that comes
      to nothing on, the worker never waits: its next turns lead to the next receive while
      the clock stands still. -/
  prompt : ∀ {pre mid t x}, s.moments w = pre ++ (t, x) :: mid →
    x.frees s.params.emptyPollDelay = true → .receiveBegun ∉ mid.map Prod.snd →
      s.stop = false → (∀ p, s.workers[w]? ≠ some (.crashed p)) → s.PollsWithin w 4
  /-- A window of the clock holds few of the receives that come to nothing, by when they
      begin. -/
  receiveRate : 0 < s.params.emptyPollDelay → ∀ from_ length,
    ((s.barrenReceives w).filter fun t => from_ ≤ t ∧ t ≤ from_ + length).length ≤
      length / s.params.emptyPollDelay + 1
  /-- It holds few reports of receive errors. -/
  reportRate : 0 < s.params.emptyPollDelay → ∀ from_ length,
    ((s.receiveReports w).filter fun t => from_ ≤ t ∧ t ≤ from_ + length).length ≤
      length / s.params.emptyPollDelay + 1
  /-- Without a delay the worker never pauses: it lets the others run once and looks for the
      stop signal. -/
  yields : s.params.emptyPollDelay = 0 → s.NeverPauses w ∧
    (s.workers[w]? = some .idling → (s.step (.run w)).workers[w]? = some .yielding) ∧
    (s.workers[w]? = some .yielding → (s.step (.run w)).workers[w]? =
      some (if s.stop then .leaving else .polling))

/-- How a worker polls if the clock moves only while it waits. -/
structure PollsAtOnce (s : Pool) (w : Nat) : Prop where
  /-- It begins its next receive at the reading of the clock at which it was freed. -/
  freed : ∀ {pre mid post t x t'},
    s.moments w = pre ++ (t, x) :: mid ++ (t', .receiveBegun) :: post →
      x.frees s.params.emptyPollDelay = true → .receiveBegun ∉ mid.map Prod.snd → t' = t
  /-- So after a receive that yields a message the next one begins when the handling of the
      message has ended. -/
  handled : ∀ {pre mid post t m ms t'}, s.moments w =
    pre ++ (t, .received (.messages (m :: ms))) :: mid ++ (t', .receiveBegun) :: post →
      .receiveBegun ∉ mid.map Prod.snd → ∃ x, (t', x) ∈ mid ∧ x.endsHandling = true

/-- **Pacing.** In every run of every pool that a start leaves every worker paces its polls,
    if a sleep lasts as long as the delay; and if the clock moves only while the worker
    waits, its next receive after a message begins when the handling has ended. -/
theorem run_paces {params : PoolParams} {around : Surroundings} {s : Pool}
    (hs : (start params around).running? = some s) (hw : w < params.workerCount)
    (labels : List Label)
    (htimer : 0 < params.emptyPollDelay →
      around.timer.Keeps params.emptyPollDelay (s.run labels).clock) :
    (s.run labels).Paces w ∧ (s.ClockWaits w labels → (s.run labels).PollsAtOnce w) := by
  have hl := launched_of_running hs
  have hparams : (s.run labels).params = params := by rw [params_run, hl.params_eq]
  have htimer : s.PausesInFull (s.run labels).clock := by
    unfold PausesInFull
    rw [hl.params_eq, timer_of_running hs]
    exact htimer
  -- the second part needs that the clock waits for the worker, the first one does not
  refine ⟨?_, ?_⟩
  · constructor
    case rests =>
      intro pre mid post t r t' hmoments hr
      rw [hparams]
      exact receive_of_tiring hl hw htimer hmoments (.barren hr)
    case lasts =>
      intro t deadline hmem
      rw [hparams]
      exact deadline_of_paused hl htimer hmem
    case resumes =>
      intro deadline hphase hstop hover
      exact pollsWithin_of_turnsToReceive hphase hstop (if_pos hover)
    case leaves => exact leaves_of_pausing
    case stops =>
      intro hstop later
      obtain ⟨new, hacts, hbegin, -⟩ := late_acts hstop later w
      exact ⟨new, hacts, hbegin⟩
    case unpaused =>
      intro pre mid post t m ms t' hmoments hmid
      exact unpaused_of_delivery hl hw hmoments hmid
    case prompt =>
      intro pre mid t x hmoments hfrees hmid hstop hpanic
      rw [hparams] at hfrees
      exact pollsWithin_of_freed hl hw hmoments hfrees hmid hstop hpanic
    case receiveRate =>
      intro hd from_ length
      rw [hparams] at hd ⊢
      exact length_window_le hd (barrenReceives_apart hl hw htimer) from_ length
    case reportRate =>
      intro hd from_ length
      rw [hparams] at hd ⊢
      exact length_window_le hd (receiveReports_apart hl hw htimer) from_ length
    case yields =>
      intro hd
      exact ⟨run_neverPauses hl (hparams ▸ hd) w labels, yields_of_idling hd,
        resumes_of_yielding⟩
  · intro hwaits
    constructor
    case freed =>
      intro pre mid post t x t' hmoments hfrees hmid
      rw [hparams] at hfrees
      exact receive_of_freed hl hw hwaits hmoments hfrees hmid
    case handled =>
      intro pre mid post t m ms t' hmoments hmid
      exact receive_of_handled hl hw hwaits hmoments hmid

def pausingPair : Pool :=
  let s := pair [⟨.failed (.receive "lost"), false⟩]
  { s with params := { s.params with emptyPollDelay := Time.ofMillis 5 } }

/-- The first worker gets the error, and a millisecond later a message is there. It gets
    that one after the pause and handles it for nine milliseconds. -/
def pausingRun : List Label :=
  [.run 0, .run 0, .run 0, .run 0, .run 0, .advance (Time.ofMillis 1),
    .push [⟨.messages [default], false⟩], .run 0, .advance (Time.ofMillis 4), .run 0, .run 0,
    .run 0, .run 0, .task 0 (.finish .ok), .advance (Time.ofMillis 9),
    .delete 0 (.finish .ok), .run 0, .run 0]

/-- The second receive begins five milliseconds after the first one, and the third when the
    message is handled. -/
theorem run_paces_pair :
    (start { PoolParams.pair with emptyPollDelay := Time.ofMillis 5 }
        { queue := [⟨.failed (.receive "lost"), false⟩] }).running? = some pausingPair ∧
    (pausingPair.run pausingRun).Paces 0 ∧ (pausingPair.run pausingRun).PollsAtOnce 0 ∧
    ((pausingPair.run pausingRun).moments 0).filter
        (fun moment => moment.2 = .receiveBegun) =
      [(0, .receiveBegun), (Time.ofMillis 5, .receiveBegun),
        (Time.ofMillis 14, .receiveBegun)] := by
  have hstart : (start { PoolParams.pair with emptyPollDelay := Time.ofMillis 5 }
      { queue := [⟨.failed (.receive "lost"), false⟩] }).running? = some pausingPair := rfl
  have hrun := run_paces (w := 0) hstart (by decide) pausingRun
    (fun _ => Timer.keeps_standard (by decide) (by decide))
  exact ⟨hstart, hrun.1, hrun.2 (by decide), by decide⟩

end Pool

end ConsumerPool
