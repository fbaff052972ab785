import ConsumerPool.Proofs.Turn

/-! # Pools in Lockstep

  Two pools side by side. What a worker does under a label hangs on its phase and
  on a part of the state only, so two pools that agree on that part take the same
  turns; in particular nobody reads the record. Two runs are then compared label
  by label, and a label that no worker can tell from nothing may stand in one of
  them alone. -/

namespace ConsumerPool

variable {w : Nat}

namespace Pool

/-! ### Turns are determined -/

theorem Turn.of_waiting {s : Pool} {phase : Phase} {e : Effect}
    (ht : Turn s w (.run w) phase e) (hw : s.workers[w]? = some phase)
    (hrun : s.canRun w = false) : e = s.effect [] phase := by
  cases ht with
  | wait _ => rfl
  | abandon hs | pauseStopped hs => simp [canRun, hw, hs] at hrun
  | deliver _ hq | deliverNone _ hq | receiveFailed _ hq | receivePanicked _ hq =>
    simp [canRun, hw, hq] at hrun
  | pauseOver _ hd => simp [canRun, hw, hd] at hrun
  | _ => simp [canRun, hw] at hrun

/-- A worker has one turn under a label. -/
theorem Turn.unique {s : Pool} {l : Label} {phase : Phase} {e e' : Effect}
    (ht : Turn s w l phase e) (ht' : Turn s w l phase e')
    (hw : s.workers[w]? = some phase) : e = e' := by
  cases ht' with
  | wait hrun => exact ht.of_waiting hw hrun
  | _ =>
    -- two turns of one label and phase that differ have conditions that exclude each other
    cases ht <;> simp_all [canRun]

theorem Turn.step_eq {s : Pool} {l : Label} {phase : Phase} {e : Effect}
    (ht : Turn s w l phase e) (hw : s.workers[w]? = some phase) :
    s.step l = s.apply w e := by
  obtain ⟨e', ht', he'⟩ := turn_of_step ht.actor hw
  rw [he', ht.unique ht' hw]

/-! ### What turns depend on -/

/-- Two pools agree on all that a turn depends on but the error channel. -/
structure Alike (s t : Pool) : Prop where
  workers_eq : t.workers = s.workers
  stop_eq : t.stop = s.stop
  queue_eq : t.queue = s.queue
  clock_eq : t.clock = s.clock
  timer_eq : t.timer = s.timer
  delay_eq : t.params.emptyPollDelay = s.params.emptyPollDelay
  transform_eq : t.transformInForce = s.transformInForce
  answer_eq : ∀ line, t.answer line = s.answer line

/-- Two effects are the same, each with the error channel of its own pool. -/
structure Effect.Alike (s t : Pool) (e e' : Effect) : Prop where
  acts_eq : e'.acts = e.acts
  phase_eq : e'.phase = e.phase
  stop_eq : e'.stop = e.stop
  queue_eq : e'.queue = e.queue
  own : e.channel = s.channel
  own' : e'.channel = t.channel

namespace Alike

variable {s t : Pool}

theorem canRun_eq (h : Alike s t) (w : Nat) : t.canRun w = s.canRun w := by
  simp only [canRun, h.workers_eq, h.stop_eq, h.queue_eq, h.clock_eq]

theorem effect (h : Alike s t) (acts : List Act) (phase : Phase) :
    Effect.Alike s t (s.effect acts phase) (t.effect acts phase) :=
  ⟨rfl, rfl, h.stop_eq, h.queue_eq, rfl, rfl⟩

theorem spoken (h : Alike s t) (first : List Act) (line : LogLine) (acts : List Act)
    (phase : Phase) :
    Effect.Alike s t (s.spoken first line acts phase) (t.spoken first line acts phase) := by
  unfold Pool.spoken
  rw [h.answer_eq]
  split
  · exact h.effect _ _
  · exact h.effect _ _

end Alike

/-- A turn that makes no report is one of every pool that agrees on what it depends on. -/
theorem Turn.transfer {s t : Pool} {l : Label} {phase : Phase} {e : Effect}
    (ht : Turn s w l phase e) (h : Alike s t)
    (hreport : ¬(l = .run w ∧ ∃ e₀ after, phase = .reporting e₀ after)) :
    ∃ e', Turn t w l phase e' ∧ Effect.Alike s t e e' := by
  have hstop {b : Bool} (hs : s.stop = b) : t.stop = b := h.stop_eq.trans hs
  have hqueue {r : Response} {rest : List Response} (hq : s.queue = r :: rest) :
      t.queue = r :: rest := h.queue_eq.trans hq
  cases ht with
  | wait hrun => exact ⟨_, .wait ((h.canRun_eq w).trans hrun), h.effect _ _⟩
  | noTask hm => exact ⟨_, .noTask hm, h.effect _ _⟩
  | noDelete hm => exact ⟨_, .noDelete hm, h.effect _ _⟩
  | start => exact ⟨_, .start, h.spoken _ _ _ _⟩
  | pollStopped hs => exact ⟨_, .pollStopped (hstop hs), h.effect _ _⟩
  | pollBegin hs => exact ⟨_, .pollBegin (hstop hs), h.effect _ _⟩
  | abandon hs => exact ⟨_, .abandon (hstop hs), h.effect _ _⟩
  | deliver hs hq =>
    exact ⟨_, .deliver (hstop hs) (hqueue hq), ⟨rfl, rfl, rfl, rfl, rfl, rfl⟩⟩
  | deliverNone hs hq =>
    exact ⟨_, .deliverNone (hstop hs) (hqueue hq), ⟨rfl, rfl, rfl, rfl, rfl, rfl⟩⟩
  | receiveFailed hs hq =>
    exact ⟨_, .receiveFailed (hstop hs) (hqueue hq), ⟨rfl, rfl, rfl, rfl, rfl, rfl⟩⟩
  | receivePanicked hs hq =>
    exact ⟨_, .receivePanicked (hstop hs) (hqueue hq), ⟨rfl, rfl, rfl, rfl, rfl, rfl⟩⟩
  | call => exact ⟨_, .call, h.spoken _ _ _ _⟩
  | reportTaken _ | reportDropped _ => exact absurd ⟨rfl, _, _, rfl⟩ hreport
  | logFailure => exact ⟨_, .logFailure, h.spoken _ _ _ _⟩
  | complete => exact ⟨_, .complete, h.spoken _ _ _ _⟩
  | yield hd => exact ⟨_, .yield (h.delay_eq.trans hd), h.effect _ _⟩
  | idleStopped hd hs =>
    rw [← h.delay_eq] at hd
    exact ⟨_, .idleStopped hd (hstop hs), h.effect _ _⟩
  | pauseBegin hd hs =>
    rw [← h.delay_eq] at hd
    rw [← h.delay_eq, ← h.clock_eq, ← h.timer_eq]
    exact ⟨_, .pauseBegin hd (hstop hs), h.effect _ _⟩
  | yieldStopped hs => exact ⟨_, .yieldStopped (hstop hs), h.effect _ _⟩
  | yieldOver hs => exact ⟨_, .yieldOver (hstop hs), h.effect _ _⟩
  | pauseStopped hs => exact ⟨_, .pauseStopped (hstop hs), h.effect _ _⟩
  | pauseOver hs hd =>
    rw [← h.clock_eq] at hd
    exact ⟨_, .pauseOver (hstop hs) hd, h.effect _ _⟩
  | leave => exact ⟨_, .leave, h.spoken _ _ _ _⟩
  | taskStop => exact ⟨_, .taskStop, ⟨rfl, rfl, rfl, h.queue_eq, rfl, rfl⟩⟩
  | taskOk => exact ⟨_, .taskOk, h.effect _ _⟩
  | taskFailed => exact ⟨_, .taskFailed, h.effect _ _⟩
  | taskPanicked hf => exact ⟨_, .taskPanicked (h.transform_eq.trans hf), h.effect _ _⟩
  | taskRecovered hf ht =>
    exact ⟨_, .taskRecovered (h.transform_eq.trans hf) ht, h.effect _ _⟩
  | taskLost hf ht => exact ⟨_, .taskLost (h.transform_eq.trans hf) ht, h.effect _ _⟩
  | disposalPanicked => exact ⟨_, .disposalPanicked, h.effect _ _⟩
  | deleteStop => exact ⟨_, .deleteStop, ⟨rfl, rfl, rfl, h.queue_eq, rfl, rfl⟩⟩
  | deleteOk => exact ⟨_, .deleteOk, h.effect _ _⟩
  | deleteFailed => exact ⟨_, .deleteFailed, h.effect _ _⟩
  | deletePanicked => exact ⟨_, .deletePanicked, h.effect _ _⟩

/-- With the same error channel, every turn is one of the other pool too. -/
theorem Turn.transfer_same {s t : Pool} {l : Label} {phase : Phase} {e : Effect}
    (ht : Turn s w l phase e) (h : Alike s t) (hch : t.channel = s.channel) :
    Turn t w l phase e := by
  by_cases hreport : l = .run w ∧ ∃ e₀ after, phase = .reporting e₀ after
  · obtain ⟨rfl, e₀, after, rfl⟩ := hreport
    have heffect (acts : List Act) (phase : Phase) : s.effect acts phase = t.effect acts phase := by
      simp only [effect, h.stop_eq, h.queue_eq, hch]
    have hspoken (first : List Act) (line : LogLine) (acts : List Act) (phase : Phase) :
        s.spoken first line acts phase = t.spoken first line acts phase := by
      simp only [spoken, h.answer_eq, heffect]
    cases ht with
    | wait hrun =>
      rw [heffect]
      exact .wait ((h.canRun_eq w).trans hrun)
    | reportTaken hacc =>
      rw [heffect, ← hch]
      rw [← hch] at hacc
      exact .reportTaken hacc
    | reportDropped hacc =>
      rw [hspoken, ← hch]
      rw [← hch] at hacc
      exact .reportDropped hacc
  · obtain ⟨e', ht', he⟩ := ht.transfer h hreport
    have hsame : e' = e := by
      obtain ⟨acts, phase, stop, queue, channel⟩ := e
      obtain ⟨acts', phase', stop', queue', channel'⟩ := e'
      obtain ⟨hacts, hp, hs, hq, hown, hown'⟩ := he
      simp only at hacts hp hs hq hown hown'
      rw [hacts, hp, hs, hq, hown, hown', hch]
    rwa [← hsame]

/-- Two pools with the same error channel that agree on all that a turn depends on take the
    same step of a worker. -/
theorem Alike.same_step {s t : Pool} {l : Label} (h : Alike s t)
    (hch : t.channel = s.channel) (hl : l.actor? = some w) :
    (s.step l = s ∧ t.step l = t) ∨ ∃ e, s.step l = s.apply w e ∧ t.step l = t.apply w e := by
  cases hw : s.workers[w]? with
  | none => exact .inl ⟨step_absent hl hw, step_absent hl (by rw [h.workers_eq, hw])⟩
  | some phase =>
    obtain ⟨e, ht, he⟩ := turn_of_step hl hw
    have hw' : t.workers[w]? = some phase := by rw [h.workers_eq, hw]
    exact .inr ⟨e, he, (ht.transfer_same h hch).step_eq hw'⟩

/-! ### Views of the record -/

/-- The events of the record as a view shows them. -/
def seen (view : Act → Option Act) (s : Pool) : List Event :=
  s.record.filterMap fun event => (view event.act).map fun act => { event with act }

variable {view : Act → Option Act}

theorem seen_apply (s : Pool) (w : Nat) (e : Effect) :
    (s.apply w e).seen view =
      s.seen view ++ (e.acts.filterMap view).map fun act => ⟨s.clock, some w, act⟩ := by
  rw [seen, seen, record_apply, List.filterMap_append, List.filterMap_map, List.map_filterMap]
  rfl

/-! ### The past is not read -/

/-- Whether the transform in force goes by the error alone, whatever calls went before. -/
def GoesByError (s : Pool) : Prop :=
  ∀ origin t, s.chosenTransform = some (origin, t) →
    ∀ earlier earlier' e, t earlier e = t earlier' e

theorem GoesByError.force_eq {s : Pool} (h : s.GoesByError) (record : List Event)
    (changed : List TaskError) :
    { s with record, changed }.transformInForce = s.transformInForce := by
  have hchosen : { s with record, changed }.chosenTransform = s.chosenTransform := rfl
  rw [transformInForce, transformInForce, hchosen]
  cases heq : s.chosenTransform with
  | none => rfl
  | some chosen =>
    obtain ⟨origin, t⟩ := chosen
    have hsame : t changed = t s.changed := funext fun e => h origin t heq _ _ e
    simp only [Option.map_some, hsame]

/-- What a step makes of a pool, by its record and by the calls of the transform before, if
    it adds to both but reads neither. -/
def AddsToPast (f : List Event → List TaskError → Pool) : Prop :=
  ∃ (t : Pool) (new : List Event) (calls : List TaskError), ∀ record changed,
    f record changed = { t with record := record ++ new, changed := changed ++ calls }

theorem addsToPast_of_eq {f : List Event → List TaskError → Pool} (t : Pool)
    (h : ∀ record changed, f record changed = { t with record, changed }) : AddsToPast f :=
  ⟨t, [], [], fun record changed => by rw [h, List.append_nil, List.append_nil]⟩

theorem addsToPast_of_note {f : List Event → List TaskError → Pool} (t : Pool)
    (event : Event)
    (h : ∀ record changed, f record changed =
      { t with record := record ++ [event], changed }) : AddsToPast f :=
  ⟨t, [event], [], fun record changed => by rw [h, List.append_nil]⟩

/-- No step of the outside reads the past. -/
theorem step_past_outside (s : Pool) {l : Label} (hl : l.actor? = none) :
    AddsToPast fun record changed => { s with record, changed }.step l := by
  cases l with
  | run _ | task _ _ | delete _ _ => cases hl
  | push rs => exact addsToPast_of_eq (s.step (.push rs)) fun _ _ => rfl
  | fireStop => exact addsToPast_of_eq s.fireStop fun _ _ => rfl
  | advance d => exact addsToPast_of_eq (s.step (.advance d)) fun _ _ => rfl
  | setTransform f => exact addsToPast_of_eq (s.setTransform f) fun _ _ => rfl
  | dropHandle => exact addsToPast_of_eq s.dropHandle fun _ _ => rfl
  | closeErrors => exact addsToPast_of_eq s.closeErrors fun _ _ => rfl
  | readError =>
    simp only [step, readError]
    split
    · next channel e _ =>
      exact addsToPast_of_note { s with channel } ⟨s.clock, none, .errorRead e⟩ fun _ _ => rfl
    all_goals exact addsToPast_of_eq s fun _ _ => rfl
  | dropErrors =>
    simp only [step, dropErrors]
    split
    · exact addsToPast_of_eq s fun _ _ => rfl
    all_goals
      exact addsToPast_of_note { s with channel := s.channel.drop }
        ⟨s.clock, none, .errorsDiscarded s.channel.unread⟩ fun _ _ => rfl
  | join =>
    simp only [step, beginJoin]
    split
    · exact addsToPast_of_eq { s with handle := .joining } fun _ _ => rfl
    all_goals exact addsToPast_of_eq s fun _ _ => rfl
  | shutdown =>
    simp only [step, shutdown, beginJoin, fireStop]
    split
    · exact addsToPast_of_eq { s with stop := true, handle := .joining } fun _ _ => rfl
    all_goals exact addsToPast_of_eq s fun _ _ => rfl

/-- No step reads the past if the transform in force goes by the error alone: with another
    record and other calls before, the step is the same and adds the same. -/
theorem GoesByError.step_past {s : Pool} (h : s.GoesByError) (l : Label) :
    AddsToPast fun record changed => { s with record, changed }.step l := by
  cases hl : l.actor? with
  | none => exact s.step_past_outside hl
  | some w =>
    cases hw : s.workers[w]? with
    | none => exact addsToPast_of_eq s fun record changed => step_absent hl hw
    | some phase =>
      obtain ⟨e, ht, -⟩ := turn_of_step hl hw
      refine ⟨s.apply w e, e.acts.map fun act => ⟨s.clock, some w, act⟩,
        e.acts.filterMap Act.change?, fun record changed => ?_⟩
      -- the past is read only by the transform in force
      have halike : Alike s { s with record, changed } :=
        ⟨rfl, rfl, rfl, rfl, rfl, rfl, h.force_eq record changed, fun _ => rfl⟩
      have hstep := (ht.transfer_same halike rfl).step_eq hw
      exact hstep

/-! ### Runs side by side -/

/-- Two pools stay related along two runs that differ only in idle labels, if each of
    these keeps the relation whichever of the two pools takes it. -/
theorem run_related (idle : Label → Bool) {R : Pool → Pool → Prop}
    (hleft : ∀ {s t l}, idle l = true → R s t → R (s.step l) t)
    (hright : ∀ {s t l}, idle l = true → R s t → R s (t.step l))
    (hboth : ∀ {s t l}, idle l = false → R s t → R (s.step l) (t.step l))
    {ls ms : List Label} (h : ls.filter (!idle ·) = ms.filter (!idle ·)) {s t : Pool}
    (hst : R s t) : R (s.run ls) (t.run ms) := by
  have hskip {s t : Pool} (hst : R s t) {ms : List Label} (hms : ∀ l ∈ ms, idle l = true) :
      R s (t.run ms) := run_keeps (fun l hl _ => hright (hms l hl)) hst
  induction ls generalizing ms s t with
  | nil => exact hskip hst (by simpa [List.filter_eq_nil_iff] using h.symm)
  | cons l ls ih =>
    by_cases hl : idle l = true
    · exact ih (by simpa [hl] using h) (hleft hl hst)
    · rw [Bool.not_eq_true] at hl
      rw [List.filter_cons_of_pos (by simp [hl])] at h
      -- the other run takes the same label once it is through with idle ones
      obtain ⟨ms₁, ms₂, rfl, hms₁, -, hms₂⟩ := List.filter_eq_cons_iff.mp h.symm
      rw [run_append, run_cons, run_cons]
      exact ih hms₂.symm (hboth hl (hskip hst (by simpa using hms₁)))

end Pool

end ConsumerPool
