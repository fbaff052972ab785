import ConsumerPool.Proofs.Stop

/-! # How Workers End

  A worker that has ended does nothing more. It has seen the stop signal, or a
  call of foreign code has panicked in it. The task is no such call, but the
  disposal of what a task throws is. `BreaksAt` lists the panics that end a
  worker, each with the pool as the call that panics leaves it: nothing happens
  after that but the end of this one worker. -/

namespace ConsumerPool

variable {w : Nat}

/-- The line that a worker writes in a phase before it does anything else. -/
def Phase.line? (w : Nat) : Phase → Option LogLine
  | .spawned => some (.workerStarted w)
  | .holding m => some (.processing m.shownId)
  | .deleteFailed m e => some (.deleteFailed m.shownId e)
  | .finishing m => some (.completed m.shownId)
  | .leaving => some (.workerStopped w)
  | .polling | .receiving | .inTask _ | .reporting _ _ | .deleting _ | .idling | .yielding
  | .pausing _ | .stopped | .crashed _ => none

namespace Pool

/-! ### Ended workers -/

/-- Whether a worker of the pool has not ended. -/
def IsLive (s : Pool) (w : Nat) : Prop :=
  ∃ phase, s.workers[w]? = some phase ∧ phase.ended = false

def HasEnded (s : Pool) (w : Nat) : Prop :=
  ∃ phase, s.workers[w]? = some phase ∧ phase.ended = true

/-- The pool has a worker of each number below the count, live or ended. -/
theorem isLive_or_hasEnded_iff (s : Pool) (w : Nat) :
    s.IsLive w ∨ s.HasEnded w ↔ w < s.workers.length := by
  constructor
  · rintro (⟨phase, hw, -⟩ | ⟨phase, hw, -⟩)
    · exact (List.getElem?_eq_some_iff.mp hw).1
    · exact (List.getElem?_eq_some_iff.mp hw).1
  · intro hlt
    have hw : s.workers[w]? = some s.workers[w] := List.getElem?_eq_getElem hlt
    cases hended : s.workers[w].ended with
    | false => exact .inl ⟨_, hw, hended⟩
    | true => exact .inr ⟨_, hw, hended⟩

theorem HasEnded.not_isLive {s : Pool} (h : s.HasEnded w) : ¬ s.IsLive w := by
  rintro ⟨phase, hw, hlive⟩
  obtain ⟨phase', hw', hended⟩ := h
  obtain rfl : phase' = phase := Option.some.inj (hw'.symm.trans hw)
  rw [hended] at hlive
  cases hlive

theorem Turn.of_ended {s : Pool} {l : Label} {phase : Phase} {e : Effect}
    (ht : Turn s w l phase e) (h : phase.ended = true) : e = s.effect [] phase := by
  cases ht with
  | wait _ | noTask _ | noDelete _ => rfl
  | _ => cases h

theorem HasEnded.step_eq {s : Pool} (h : s.HasEnded w) {l : Label}
    (hl : l.actor? = some w) : s.step l = s := by
  obtain ⟨phase, hw, hended⟩ := h
  obtain ⟨e, ht, he⟩ := turn_of_step hl hw
  rw [he, ht.of_ended hended, apply_rest hw]

theorem HasEnded.keeps {s : Pool} (h : s.HasEnded w) (l : Label) :
    (s.step l).workers[w]? = s.workers[w]? ∧ (s.step l).acts w = s.acts w := by
  obtain ⟨phase, hw, hended⟩ := h
  rcases step_view s l w with ⟨hacts, hphase⟩ | ⟨phase', e, hp, ht, he⟩
  · exact ⟨hphase, hacts⟩
  · obtain rfl : phase' = phase := Option.some.inj (hp.symm.trans hw)
    have hsame : s.step l = s := by rw [he, ht.of_ended hended, apply_rest hw]
    rw [hsame]
    exact ⟨rfl, rfl⟩

/-- A worker that has ended stays where it is and does nothing, whatever runs. -/
theorem HasEnded.run_keeps {s : Pool} (h : s.HasEnded w) (labels : List Label) :
    (s.run labels).workers[w]? = s.workers[w]? ∧ (s.run labels).acts w = s.acts w := by
  apply run_invariant
    (I := fun t => t.workers[w]? = s.workers[w]? ∧ t.acts w = s.acts w) ⟨rfl, rfl⟩
  intro t l ⟨hphase, hacts⟩
  have hended : t.HasEnded w := by
    obtain ⟨phase, hw, hended⟩ := h
    exact ⟨phase, hphase.trans hw, hended⟩
  obtain ⟨hphase', hacts'⟩ := hended.keeps l
  exact ⟨hphase'.trans hphase, hacts'.trans hacts⟩

/-! ### Panics that end a worker -/

/-- The pool after a report that was not taken. -/
def rejected (s : Pool) (w : Nat) (e : PoolError) : Pool :=
  { s with channel := { s.channel with dropped := s.channel.dropped + 1 } }.note
    (some w) (.reported e false)

/-- The panics that end a worker, each with the pool as the call that panics leaves it. -/
inductive BreaksAt (s : Pool) (w : Nat) : Label → Pool → Payload → Prop where
  | line {phase line p} : s.workers[w]? = some phase → phase.line? w = some line →
      s.answer line = some p → BreaksAt s w (.run w) (s.write (some w) line).1 p
  /-- The logger panics on the line about a report that was not taken and is counted. -/
  | dropLine {e after p} : s.workers[w]? = some (.reporting e after) →
      s.channel.accepts = false → s.answer (.errorDropped e) = some p →
      BreaksAt s w (.run w) ((s.rejected w e).write (some w) (.errorDropped e)).1 p
  /-- The client panics in a receive, after it has taken the response and fired the stop
      signal, if it does. -/
  | receive {p fires rest} : s.workers[w]? = some .receiving → s.stop = false →
      s.queue = ⟨.panicked p, fires⟩ :: rest →
      BreaksAt s w (.run w)
        ({ s with queue := rest, stop := fires }.note (some w) (.received (.panicked p))) p
  /-- The transform in force panics on the error recovered from a panic of the task. -/
  | transform {m q origin f p} : s.workers[w]? = some (.inTask m) →
      s.transformInForce = some (origin, f) → f q.recovered = .error p →
      BreaksAt s w (.task w (.finish (.panicked (.plain q))))
        { (s.note (some w) (.taskEnded m (.panicked (.plain q)))).note
            (some w) (.transformed origin q.recovered) with
          changed := s.changed ++ [q.recovered] } p
  /-- The disposal of what the task throws panics. -/
  | disposal {m p} : s.workers[w]? = some (.inTask m) →
      BreaksAt s w (.task w (.finish (.panicked (.fragile p))))
        (s.note (some w) (.taskEnded m (.panicked (.fragile p)))) p
  | delete {m p} : s.workers[w]? = some (.deleting m) →
      BreaksAt s w (.delete w (.finish (.panicked p)))
        (s.note (some w) (.deleteEnded m (.panicked p))) p

theorem writing_of_answer {s : Pool} {line : LogLine} {p : Payload}
    (h : s.answer line = some p) (next : Pool → Pool) :
    s.writing w line next = (s.write (some w) line).1.crash w p := by
  unfold answer at h
  simp only [writing, write, h]

/-- **Nothing follows a panic** that ends a worker but its end. -/
theorem BreaksAt.step_eq {s t : Pool} {l : Label} {p : Payload} (h : BreaksAt s w l t p) :
    s.step l = t.crash w p := by
  cases h with
  | @line phase line _ hw hline hanswer =>
    have hwriting := writing_of_answer (w := w) hanswer
    cases phase <;> simp only [Phase.line?, Option.some.injEq, reduceCtorEq] at hline <;>
      subst hline <;>
      simp only [step, runWorker, leave, beginTask, logDeleteFailure, hw, hwriting]
  | @dropLine e after _ hw hacc hanswer =>
    have hreport : s.channel.report e =
        ({ s.channel with dropped := s.channel.dropped + 1 }, some e) := by
      simp [ErrorChannel.report, hacc]
    -- the logger has been given as many lines as before
    have hanswer' : (s.rejected w e).answer (.errorDropped e) = some p := hanswer
    simp only [step, runWorker, hw, report, hreport]
    exact writing_of_answer hanswer' _
  | receive hw hs hq => simp [step, runWorker, hw, Pool.receive, hs, hq, accept]
  | @transform m q _ _ _ hw hforce hpanic =>
    -- the record has grown, which no transform depends on
    have hforce' : (s.note (some w) (.taskEnded m (.panicked (.plain q)))).transformInForce =
      s.transformInForce := rfl
    simp only [step, moveTask, hw, endTask, recoverTask, Thrown.recover, changeTask, hforce',
      hforce, hpanic]
    rfl
  | disposal hw => simp only [step, moveTask, hw, endTask, recoverTask, Thrown.recover]
  | delete hw => simp only [step, moveDelete, hw, endDelete]

/-- A worker that ends while it writes a line ends by a panic of the logger. -/
theorem answer_of_spoken {s : Pool} {first acts : List Act} {line : LogLine} {phase : Phase}
    {p : Payload} (h : (s.spoken first line acts phase).phase = .crashed p)
    (hphase : phase ≠ .crashed p) : s.answer line = some p := by
  unfold spoken at h
  cases hanswer : s.answer line with
  | none =>
    rw [hanswer] at h
    exact absurd h hphase
  | some q =>
    rw [hanswer] at h
    cases h
    rfl

/-- A turn that ends a live worker by a panic breaks at a call. -/
theorem Turn.breaksAt {s : Pool} {l : Label} {phase : Phase} {e : Effect} {p : Payload}
    (ht : Turn s w l phase e) (hw : s.workers[w]? = some phase) (hlive : phase.ended = false)
    (hp : e.phase = .crashed p) : ∃ t, BreaksAt s w l t p := by
  cases ht with
  | wait _ | noTask _ | noDelete _ =>
    -- the worker stays where it is, so it would have ended before
    simp only [effect] at hp
    rw [hp] at hlive
    cases hlive
  | start => exact ⟨_, .line hw rfl (answer_of_spoken hp (by simp))⟩
  | call => exact ⟨_, .line hw rfl (answer_of_spoken hp (by simp))⟩
  | logFailure => exact ⟨_, .line hw rfl (answer_of_spoken hp (by simp))⟩
  | complete => exact ⟨_, .line hw rfl (answer_of_spoken hp (by simp))⟩
  | leave => exact ⟨_, .line hw rfl (answer_of_spoken hp (by simp))⟩
  | @reportDropped _ after hacc =>
    have hnext : Phase.afterReport after ≠ .crashed p := by
      cases after <;> simp [Phase.afterReport]
    exact ⟨_, .dropLine hw hacc (answer_of_spoken hp hnext)⟩
  | @reportTaken _ after _ => cases after <;> cases hp
  | receivePanicked hs hq =>
    cases hp
    exact ⟨_, .receive hw hs hq⟩
  | taskLost hforce hpanic =>
    cases hp
    exact ⟨_, .transform hw hforce hpanic⟩
  | disposalPanicked =>
    cases hp
    exact ⟨_, .disposal hw⟩
  | deletePanicked =>
    cases hp
    exact ⟨_, .delete hw⟩
  | _ => cases hp

/-- A turn that ends a worker without a panic is the last one of a worker that leaves. -/
theorem Turn.of_stopped {s : Pool} {l : Label} {phase : Phase} {e : Effect}
    (ht : Turn s w l phase e) (hlive : phase.ended = false) (hp : e.phase = .stopped) :
    l = .run w ∧ phase = .leaving := by
  cases ht with
  | wait _ | noTask _ | noDelete _ =>
    simp only [effect] at hp
    rw [hp] at hlive
    cases hlive
  | leave => exact ⟨rfl, rfl⟩
  | start | call | logFailure | complete =>
    simp only [spoken] at hp
    split at hp <;> cases hp
  | @reportDropped _ after _ =>
    simp only [spoken] at hp
    split at hp
    · cases after <;> cases hp
    · cases hp
  | @reportTaken _ after _ => cases after <;> cases hp
  | _ => cases hp

/-- A live worker lives on if it does not leave and no call panics. -/
theorem IsLive.step {s : Pool} (h : s.IsLive w) {l : Label}
    (hleave : l = .run w → s.workers[w]? ≠ some .leaving)
    (hbreak : ∀ t p, ¬ BreaksAt s w l t p) : (s.step l).IsLive w := by
  obtain ⟨phase, hw, hlive⟩ := h
  rcases step_view s l w with ⟨-, hsame⟩ | ⟨phase', e, hp, ht, he⟩
  · exact ⟨phase, hsame.trans hw, hlive⟩
  · obtain rfl : phase' = phase := Option.some.inj (hp.symm.trans hw)
    have hnext : (s.step l).workers[w]? = some e.phase := by rw [he, phase_apply_self hw]
    refine ⟨e.phase, hnext, ?_⟩
    -- it could only have ended by leaving or by a call that panics
    cases hphase : e.phase with
    | stopped =>
      obtain ⟨hl, rfl⟩ := ht.of_stopped hlive hphase
      exact absurd hw (hleave hl)
    | crashed p =>
      obtain ⟨t, ht⟩ := ht.breaksAt hw hlive hphase
      exact absurd ht (hbreak t p)
    | _ => rfl

/-! ### What a panic leaves alone -/

end Pool

end ConsumerPool
