import ConsumerPool.Pool.Join
import ConsumerPool.Proofs.Lockstep
import ConsumerPool.Proofs.Reporting
import Mathlib.Data.List.Forall2

/-! # Panics as Returned Errors

  A task that panics has the effect of a task that returns the error recovered
  from the panic. Two runs that differ only in this, at any places, end in pools
  that are `Indistinct`: equal in all but the record and the calls of the
  transform, and the records tell only how the tasks failed. What a panic is
  recovered as depends on the transform in force at that moment, so `Returned`
  follows the run. A transform that counts its calls tells the two apart
  (`panic_counts`); one that goes by the error alone does not. -/

namespace ConsumerPool

variable {w : Nat}

/-! ### What shows how a task failed -/

/-- An act without how a task failed: all failures of a task on a message look the same,
    and no call of a transform is shown. -/
def Act.unraised? : Act → Option Act
  | .taskEnded m (.failed _) | .taskEnded m (.panicked _) =>
      some (.taskEnded m (.failed default))
  | .taskEnded m .ok => some (.taskEnded m .ok)
  | .transformed _ _ => none
  | .logged line => some (.logged line)
  | .receiveBegun => some .receiveBegun
  | .received r => some (.received r)
  | .receiveAbandoned => some .receiveAbandoned
  | .taskBegun m => some (.taskBegun m)
  | .reported e taken => some (.reported e taken)
  | .deleteBegun m => some (.deleteBegun m)
  | .deleteEnded m outcome => some (.deleteEnded m outcome)
  | .paused deadline => some (.paused deadline)
  | .exited => some .exited
  | .crashed p => some (.crashed p)
  | .errorRead e => some (.errorRead e)
  | .errorsDiscarded es => some (.errorsDiscarded es)

namespace Pool

/-- Two pools that differ at most in what their records tell of how tasks failed, and in
    the calls of the transform. -/
structure Indistinct (s t : Pool) : Prop where
  /-- Workers, queue, channel with its counter and senders, stop signal, clock, handle and
      the number of lines are the same. -/
  state_eq : ∃ record changed, t = { s with record, changed }
  /-- Receives, calls, deletes, reports, pauses, exits, lines and reads are the same, by
      the same workers at the same readings of the clock and in the same order. -/
  seen_eq : t.seen Act.unraised? = s.seen Act.unraised?

namespace Indistinct

theorem refl (s : Pool) : Indistinct s s := ⟨⟨s.record, s.changed, rfl⟩, rfl⟩

theorem trans {s t u : Pool} (h : Indistinct s t) (h' : Indistinct t u) : Indistinct s u := by
  obtain ⟨⟨_, _, rfl⟩, hseen⟩ := h
  obtain ⟨⟨record, changed, rfl⟩, hseen'⟩ := h'
  exact ⟨⟨record, changed, rfl⟩, hseen'.trans hseen⟩

/-- The same step keeps two pools indistinct if the transform in force goes by the error
    alone. -/
theorem step {s t : Pool} (h : Indistinct s t) (hforce : s.GoesByError) (l : Label) :
    Indistinct (s.step l) (t.step l) := by
  obtain ⟨⟨record, changed, rfl⟩, hseen⟩ := h
  obtain ⟨u, new, calls, hu⟩ := hforce.step_past l
  have hs : s.step l = { u with record := s.record ++ new, changed := s.changed ++ calls } :=
    hu s.record s.changed
  have ht : { s with record, changed }.step l =
      { u with record := record ++ new, changed := changed ++ calls } := hu record changed
  rw [hs, ht]
  refine ⟨⟨record ++ new, changed ++ calls, rfl⟩, ?_⟩
  simp only [seen] at hseen
  simp only [seen, List.filterMap_append, hseen]

theorem joinStatus_eq {s t : Pool} (h : Indistinct s t) : t.joinStatus = s.joinStatus := by
  obtain ⟨⟨_, _, rfl⟩, -⟩ := h
  rfl

theorem channel_eq {s t : Pool} (h : Indistinct s t) : t.channel = s.channel := by
  obtain ⟨⟨_, _, rfl⟩, -⟩ := h
  rfl

end Indistinct

/-! ### One panic -/

/-- A task that panics and one that returns the error recovered from the panic leave
    indistinct pools. -/
theorem indistinct_returned {s : Pool} {p : Payload} {source : TaskError}
    (h : ∀ m, s.workers[w]? = some (.inTask m) →
      remade s.transformInForce p.recovered = some source) :
    Indistinct (s.step (.task w (.finish (.panicked (.plain p)))))
      (s.step (.task w (.finish (.failed source)))) := by
  cases hw : s.workers[w]? with
  | none =>
    rw [step_absent rfl hw, step_absent rfl hw]
    exact .refl s
  | some phase =>
    obtain ⟨e, ht, he⟩ :=
      turn_of_step (l := .task w (.finish (.panicked (.plain p)))) rfl hw
    obtain ⟨e', ht', he'⟩ := turn_of_step (l := .task w (.finish (.failed source))) rfl hw
    rw [he, he']
    cases ht' with
    | noTask hm =>
      have hrest := ht.unique (.noTask hm) hw
      rw [hrest]
      exact .refl _
    | @taskFailed m _ =>
      -- the task runs, so the panic is recovered as the error that is returned
      have hremade := h m hw
      cases ht with
      | noTask hm => exact absurd rfl (hm m)
      | taskPanicked hf =>
        rw [hf] at hremade
        cases hremade
        refine ⟨⟨_, _, rfl⟩, ?_⟩
        rw [seen_apply, seen_apply]
        rfl
      | taskRecovered hf ht =>
        simp only [hf, remade, ht, Except.toOption, Option.some.injEq] at hremade
        subst hremade
        refine ⟨⟨_, _, rfl⟩, ?_⟩
        rw [seen_apply, seen_apply]
        rfl
      | taskLost hf ht =>
        simp [hf, remade, ht, Except.toOption] at hremade

/-! ### Any panics of a run -/

/-- Two runs from a pool that differ only in tasks that panic in the one and return, in the
    other, the error recovered from the panic under the transform in force then. -/
inductive Returned : Pool → List Label → List Label → Prop where
  | nil {s} : Returned s [] []
  | same {s l ls ms} : Returned (s.step l) ls ms → Returned s (l :: ls) (l :: ms)
  | returned {s w p source ls ms} :
      (∀ m, s.workers[w]? = some (.inTask m) →
        remade s.transformInForce p.recovered = some source) →
      Returned (s.step (.task w (.finish (.panicked (.plain p))))) ls ms →
      Returned s (.task w (.finish (.panicked (.plain p))) :: ls)
        (.task w (.finish (.failed source)) :: ms)

/-- Whether the transforms in force along a run go by the error alone. -/
def GoByError (s : Pool) : List Label → Prop
  | [] => True
  | l :: ls => s.GoesByError ∧ (s.step l).GoByError ls

/-- Runs that differ only in panics returned as errors keep pools indistinct. -/
theorem Returned.indistinct {s t : Pool} {ls ms : List Label} (h : Returned s ls ms)
    (hforce : s.GoByError ls) (hst : Indistinct s t) : Indistinct (s.run ls) (t.run ms) := by
  induction h generalizing t with
  | nil => exact hst
  | same _ ih => exact ih hforce.2 (hst.step hforce.1 _)
  | returned hp _ ih => exact ih hforce.2 ((indistinct_returned hp).trans (hst.step hforce.1 _))

/-! ### Every panic can be returned -/

/-- Whether the transform in force does not panic on what a task panics with. -/
def RecoversAt (s : Pool) : Label → Prop
  | .task w (.finish (.panicked (.plain p))) => ∀ m, s.workers[w]? = some (.inTask m) →
      remade s.transformInForce p.recovered ≠ none
  | _ => True

/-- Whether the transforms in force along a run do not panic on what its tasks panic
    with. -/
def Recovers (s : Pool) : List Label → Prop
  | [] => True
  | l :: ls => s.RecoversAt l ∧ (s.step l).Recovers ls

theorem RecoversAt.exists_source {s : Pool} {p : Payload}
    (h : s.RecoversAt (.task w (.finish (.panicked (.plain p))))) :
    ∃ source, ∀ m, s.workers[w]? = some (.inTask m) →
      remade s.transformInForce p.recovered = some source := by
  cases hremade : remade s.transformInForce p.recovered with
  | some source => exact ⟨source, fun _ _ => rfl⟩
  | none =>
    -- then there is no task that panics, and any error will do
    exact ⟨default, fun m hm => absurd hremade (h m hm)⟩

/-- Whichever panics are chosen of a run whose panics are recovered from, there is a run
    with these returned as errors and nothing else changed. -/
theorem Recovers.exists_returned {s : Pool} {ls : List Label} (h : s.Recovers ls)
    (chosen : Nat → Prop) : ∃ ms, Returned s ls ms ∧ ∀ i,
      (¬chosen i → ms[i]? = ls[i]?) ∧
      (chosen i → ∀ w p, ms[i]? ≠ some (.task w (.finish (.panicked (.plain p))))) := by
  induction ls generalizing s chosen with
  | nil => exact ⟨[], .nil, fun i => ⟨fun _ => rfl, fun _ w p => by simp⟩⟩
  | cons l ls ih =>
    obtain ⟨hl, hls⟩ := h
    obtain ⟨ms, hms, hrest⟩ := ih hls fun i => chosen (i + 1)
    by_cases hpanic : chosen 0 ∧ ∃ w p, l = .task w (.finish (.panicked (.plain p)))
    · obtain ⟨h0, w, p, rfl⟩ := hpanic
      obtain ⟨source, hsource⟩ := hl.exists_source
      refine ⟨_, .returned hsource hms, fun i => ?_⟩
      cases i with
      | zero => exact ⟨fun hn => absurd h0 hn, fun _ w p => by simp⟩
      | succ i => simpa using hrest i
    · refine ⟨_, .same hms, fun i => ?_⟩
      cases i with
      | zero => exact ⟨fun _ => rfl, fun h0 w p hp => hpanic ⟨h0, w, p, by simpa using hp⟩⟩
      | succ i => simpa using hrest i

/-! ### Thrown errors -/

/-- Two labels that are the same, or a task throws an error and returns it in the other. -/
inductive ThrowsOrReturns : Label → Label → Prop where
  | same (l : Label) : ThrowsOrReturns l l
  | thrown (w : Nat) (source : TaskError) :
      ThrowsOrReturns (.task w (.finish (.panicked (.plain (.error source)))))
        (.task w (.finish (.failed source)))

theorem processTransform_step (s : Pool) (l : Label) :
    (s.step l).processTransform = s.processTransform.or l.transform? := by
  cases hl : l.actor? with
  | some w =>
    have hnone : l.transform? = none := by
      cases l with
      | setTransform _ => cases hl
      | _ => rfl
    rw [hnone, Option.or_none]
    rcases s.step_of_actor hl with hsame | ⟨phase, e, -, -, he⟩
    · rw [hsame]
    · rw [he]
      rfl
  | none =>
    cases l with
    | run _ | task _ _ | delete _ _ => cases hl
    | setTransform f => rfl
    | push _ | fireStop | advance _ | closeErrors | dropHandle => exact Option.or_none.symm
    | readError =>
      simp only [step, readError]
      split <;> exact Option.or_none.symm
    | dropErrors =>
      simp only [step, dropErrors]
      split <;> exact Option.or_none.symm
    | join =>
      simp only [step, beginJoin]
      split <;> exact Option.or_none.symm
    | shutdown =>
      simp only [step, shutdown, beginJoin, fireStop]
      split
      · split <;> exact Option.or_none.symm
      all_goals exact Option.or_none.symm

theorem chosenTransform_step {s : Pool} {l : Label} (h : ∀ f, l ≠ .setTransform f) :
    (s.step l).chosenTransform = s.chosenTransform := by
  have hnone : l.transform? = none := by
    cases l with
    | setTransform f => exact absurd rfl (h f)
    | _ => rfl
  rw [chosenTransform, chosenTransform, processTransform_step, hnone, Option.or_none,
    params_step]

/-- Once there is a transform for panics, it is the only one that the pool ever calls. -/
theorem chosenTransform_run {s : Pool} {chosen : Origin × Transform}
    (h : s.chosenTransform = some chosen) (labels : List Label) :
    (s.run labels).chosenTransform = some chosen := by
  refine run_invariant (I := fun t => t.chosenTransform = some chosen) h
    (fun t l ht => ?_) labels
  rw [chosenTransform] at ht
  rw [chosenTransform, params_step, processTransform_step]
  cases hown : t.params.transform with
  | some own =>
    rw [hown] at ht
    exact ht
  | none =>
    rw [hown] at ht
    obtain ⟨f, hset, hf⟩ := Option.map_eq_some_iff.mp ht
    rw [hset]
    exact congrArg some hf

/-- Without a transform, a thrown error is recovered as it is. -/
theorem returned_of_thrown {s : Pool} {ls ms : List Label}
    (h : List.Forall₂ ThrowsOrReturns ls ms) (hnone : s.chosenTransform = none)
    (hset : ∀ f, .setTransform f ∉ ls) : Returned s ls ms ∧ s.GoByError ls := by
  induction h generalizing s with
  | nil => exact ⟨.nil, trivial⟩
  | @cons l m ls ms hl _ ih =>
    have hstep : (s.step l).chosenTransform = none := by
      rw [chosenTransform_step fun f hf => hset f (by simp [hf]), hnone]
    obtain ⟨hrest, hforce⟩ := ih hstep fun f hf => hset f (List.mem_cons_of_mem l hf)
    have hgoes : s.GoesByError := fun origin t ht => by
      rw [hnone] at ht
      cases ht
    refine ⟨?_, hgoes, hforce⟩
    cases hl with
    | same => exact .same hrest
    | thrown w source =>
      exact .returned (fun _ _ => by rw [transformInForce, hnone]; rfl) hrest

/-- The transforms in force go by the error alone if the pool's own does, and so do that of
    the process and all that are set for it. -/
theorem goByError_of_all {s : Pool} {ls : List Label}
    (h : ∀ t : Transform,
      s.params.transform = some t ∨ s.processTransform = some t ∨ .setTransform t ∈ ls →
        ∀ earlier earlier' e, t earlier e = t earlier' e) : s.GoByError ls := by
  induction ls generalizing s with
  | nil => trivial
  | cons l ls ih =>
    refine ⟨fun origin t ht => ?_, ih fun t ht => h t ?_⟩
    · rw [chosenTransform] at ht
      split at ht
      · next own hown =>
        cases ht
        exact h _ (.inl hown)
      · obtain ⟨t', hset, heq⟩ := Option.map_eq_some_iff.mp ht
        cases heq
        exact h _ (.inr (.inl hset))
    · -- what is set after the step was set before it, or by it
      rw [params_step, processTransform_step, Option.or_eq_some_iff] at ht
      rcases ht with hown | (hset | ⟨-, hset⟩) | hlater
      · exact .inl hown
      · exact .inr (.inl hset)
      · refine .inr (.inr (List.mem_cons.mpr (.inl ?_)))
        cases l <;> cases hset
        rfl
      · exact .inr (.inr (List.mem_cons_of_mem l hlater))

/-! ### The guarantee -/

/-- Nothing tells a task that panics from one that returns an error. -/
structure PanicsAsReturns (s : Pool) : Prop where
  /-- If the transforms in force go by the error alone, a run with any panics returned,
      each as the error recovered from it at that moment, ends in an indistinct pool, and
      waiting for that comes to the same. -/
  same : ∀ ls ms, s.GoByError ls → Returned s ls ms → Indistinct (s.run ls) (s.run ms) ∧
    (s.run ms).joinStatus = (s.run ls).joinStatus
  /-- If the transforms in force do not panic, any panics can be returned from which an
      error is recovered. -/
  any : ∀ ls, s.Recovers ls → ∀ chosen : Nat → Prop, ∃ ms, Returned s ls ms ∧ ∀ i,
    (¬chosen i → ms[i]? = ls[i]?) ∧
    (chosen i → ∀ w p, ms[i]? ≠ some (.task w (.finish (.panicked (.plain p)))))
  /-- As long as there is no transform, an error that is thrown is as good as one that is
      returned. -/
  thrown : s.chosenTransform = none → ∀ ls ms, (∀ f, .setTransform f ∉ ls) →
    List.Forall₂ ThrowsOrReturns ls ms → Indistinct (s.run ls) (s.run ms) ∧
      (s.run ms).joinStatus = (s.run ls).joinStatus

/-- **A task panic is a returned error.** From every pool on, whatever runs and whichever
    of its tasks panic. -/
theorem run_returned (s : Pool) : PanicsAsReturns s where
  same ls ms hforce h := by
    have hrun := h.indistinct hforce (.refl s)
    exact ⟨hrun, hrun.joinStatus_eq⟩
  any ls h chosen := h.exists_returned chosen
  thrown hnone ls ms hset h := by
    obtain ⟨hreturned, hforce⟩ := returned_of_thrown h hnone hset
    have hrun := hreturned.indistinct hforce (.refl s)
    exact ⟨hrun, hrun.joinStatus_eq⟩

/-- The first worker receives a message, and its task ends as it is told to. -/
def endTaskOnce (outcome : Outcome TaskError Thrown) : List Label :=
  [.run 0, .run 0, .run 0, .run 0, .task 0 (.finish outcome), .run 0]

/-- A transform that tells its first call from the others. -/
def firstCall : Transform := fun earlier _ =>
  .ok (.generic (if earlier.isEmpty then "first" else "again"))

def wrapping : Transform := .always fun e => .ok (.pool (.task "7" e))

/-- A task panics with a text after a transform was set for the process; another one throws
    an error where none is set. -/
theorem run_returned_pair :
    (pair [⟨.messages [default], false⟩]).GoByError
      (.setTransform wrapping :: endTaskOnce (.panicked (.plain (.text "boom")))) ∧
    Returned (pair [⟨.messages [default], false⟩])
      (.setTransform wrapping :: endTaskOnce (.panicked (.plain (.text "boom"))))
      (.setTransform wrapping ::
        endTaskOnce (.failed (.pool (.task "7" (.panicked "boom"))))) ∧
    Indistinct
      ((pair [⟨.messages [default], false⟩]).run
        (.setTransform wrapping :: endTaskOnce (.panicked (.plain (.text "boom")))))
      ((pair [⟨.messages [default], false⟩]).run
        (.setTransform wrapping ::
          endTaskOnce (.failed (.pool (.task "7" (.panicked "boom")))))) ∧
    ((pair [⟨.messages [default], false⟩]).run
        (.setTransform wrapping ::
          endTaskOnce (.panicked (.plain (.text "boom"))))).channel.unread =
      [.task "" (.pool (.task "7" (.panicked "boom")))] ∧
    (pair [⟨.messages [default], false⟩]).Recovers
      (.setTransform wrapping :: endTaskOnce (.panicked (.plain (.text "boom")))) ∧
    (pair [⟨.messages [default], false⟩]).chosenTransform = none ∧
    List.Forall₂ ThrowsOrReturns (endTaskOnce (.panicked (.plain (.error (.generic "bad")))))
      (endTaskOnce (.failed (.generic "bad"))) ∧
    Indistinct
      ((pair [⟨.messages [default], false⟩]).run
        (endTaskOnce (.panicked (.plain (.error (.generic "bad"))))))
      ((pair [⟨.messages [default], false⟩]).run
        (endTaskOnce (.failed (.generic "bad")))) := by
  have hpanics := run_returned (pair [⟨.messages [default], false⟩])
  have hforce : (pair [⟨.messages [default], false⟩]).GoByError
      (.setTransform wrapping :: endTaskOnce (.panicked (.plain (.text "boom")))) := by
    refine goByError_of_all fun t ht => ?_
    rcases ht with hown | hset | hmem
    · cases hown
    · cases hset
    · obtain rfl : t = wrapping := by simpa [endTaskOnce] using hmem
      exact fun _ _ _ => rfl
  have hreturned : Returned (pair [⟨.messages [default], false⟩])
      (.setTransform wrapping :: endTaskOnce (.panicked (.plain (.text "boom"))))
      (.setTransform wrapping ::
        endTaskOnce (.failed (.pool (.task "7" (.panicked "boom"))))) :=
    .same (.same (.same (.same (.same (.returned (fun _ _ => rfl) (.same .nil))))))
  have hthrown : List.Forall₂ ThrowsOrReturns
      (endTaskOnce (.panicked (.plain (.error (.generic "bad")))))
      (endTaskOnce (.failed (.generic "bad"))) :=
    .cons (.same _) (.cons (.same _) (.cons (.same _) (.cons (.same _)
      (.cons (.thrown _ _) (.cons (.same _) .nil)))))
  refine ⟨hforce, hreturned, (hpanics.same _ _ hforce hreturned).1, by decide, ?_, rfl,
    hthrown, (hpanics.thrown rfl _ _ ?_ hthrown).1⟩
  · exact ⟨trivial, trivial, trivial, trivial, trivial, fun _ _ => by decide, trivial, trivial⟩
  · simp [endTaskOnce]

def twoMessages : List Response := [⟨.messages [default], false⟩, ⟨.messages [default], false⟩]

/-- The first worker receives two messages while `firstCall` is in force. The first
    task ends as it is told to, and its error is read; the second one panics. -/
def endThenPanic (outcome : Outcome TaskError Thrown) : List Label :=
  .setTransform firstCall :: endTaskOnce outcome ++
    [.readError, .run 0, .run 0, .run 0, .task 0 (.finish (.panicked (.plain .other))), .run 0]

/-- **A panic counts as a call.** A transform that keeps state tells a task that panics
    from one that returns the error: if the first of two panics is returned as the error
    recovered from it, the second one is reported as another error. -/
theorem panic_counts : ¬ ∀ (params : PoolParams) (around : Surroundings) (s : Pool)
    (ls ms : List Label), (start params around).running? = some s → s.Recovers ls →
      Returned s ls ms → Indistinct (s.run ls) (s.run ms) := by
  intro h
  have hrecovers : (pair twoMessages).Recovers (endThenPanic (.panicked (.plain .other))) :=
    ⟨trivial, trivial, trivial, trivial, trivial, fun _ _ => by decide, trivial, trivial,
      trivial, trivial, trivial, fun _ _ => by decide, trivial, trivial⟩
  have hreturned : Returned (pair twoMessages) (endThenPanic (.panicked (.plain .other)))
      (endThenPanic (.failed (.generic "first"))) :=
    .same (.same (.same (.same (.same (.returned (fun _ _ => rfl) (.same (.same (.same
      (.same (.same (.same (.same .nil))))))))))))
  -- so the same errors would be unread after both runs
  have hsame := h _ _ _ _ _ (pair_running twoMessages) hrecovers hreturned
  have hpanicked : ((pair twoMessages).run
      (endThenPanic (.panicked (.plain .other)))).channel.unread =
        [.task "" (.generic "again")] := by decide
  have hreported : ((pair twoMessages).run
      (endThenPanic (.failed (.generic "first")))).channel.unread =
        [.task "" (.generic "first")] := by decide
  rw [hsame.channel_eq, hpanicked] at hreported
  exact absurd hreported (by decide)

end Pool

end ConsumerPool
