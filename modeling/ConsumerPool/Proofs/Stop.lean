import ConsumerPool.Proofs.Turn

/-! # The Stop Signal

  The stop signal stays fired, and no worker leaves before it has. -/

namespace ConsumerPool.Pool

/-! ### The signal stays fired -/

theorem Turn.stop_mono {s : Pool} {w : Nat} {l : Label} {phase : Phase} {e : Effect}
    (ht : Turn s w l phase e) (h : s.stop = true) : e.stop = true := by
  cases ht with
  | deliver hs _ | deliverNone hs _ | receiveFailed hs _ | receivePanicked hs _ =>
    rw [h] at hs
    cases hs
  | taskStop | deleteStop => rfl
  | start | call | reportDropped _ | logFailure | complete | leave =>
    simp only [spoken]
    split <;> exact h
  | wait _ | noTask _ | noDelete _ | pollStopped _ | pollBegin _ | abandon _
  | reportTaken _ | yield _ | idleStopped _ _ | pauseBegin _ _ | yieldStopped _
  | yieldOver _ | pauseStopped _ | pauseOver _ _ | taskOk | taskFailed | taskPanicked _
  | taskRecovered _ _ | taskLost _ _ | disposalPanicked | deleteOk | deleteFailed
  | deletePanicked => exact h

theorem stop_step {s : Pool} (h : s.stop = true) (l : Label) : (s.step l).stop = true := by
  cases stepKind s l with
  | absent _ hsame =>
    rw [hsame]
    exact h
  | turn _ _ ht he =>
    rw [he]
    exact ht.stop_mono h
  | outside hl _ =>
    cases l with
    | run _ | task _ _ | delete _ _ => simp [Label.actor?] at hl
    | push _ | advance _ | setTransform _ | closeErrors | dropHandle => exact h
    | fireStop => rfl
    | readError => simp only [step, readError]; split <;> exact h
    | dropErrors => simp only [step, dropErrors]; split <;> exact h
    | join => simp only [step, beginJoin]; split <;> exact h
    | shutdown =>
      simp only [step, shutdown]
      split
      · simp only [beginJoin, fireStop]
        split <;> rfl
      all_goals exact h

/-! ### Leaving -/

/-- A worker that leaves or has left has seen the stop signal. -/
def LeavesOnStop (w : Nat) (s : Pool) : Prop :=
  s.workers[w]? = some .leaving ∨ s.workers[w]? = some .stopped ∨ .exited ∈ s.acts w →
    s.stop = true

/-- A turn that leads a worker to leave, or out of the loop, finds the stop signal
    fired. -/
theorem Turn.leaves {s : Pool} {w : Nat} {l : Label} {phase : Phase} {e : Effect}
    (ht : Turn s w l phase e)
    (hold : phase = .leaving ∨ phase = .stopped → s.stop = true)
    (hnew : e.phase = .leaving ∨ e.phase = .stopped ∨ .exited ∈ e.acts) :
    s.stop = true := by
  cases ht with
  | wait _ | noTask _ | noDelete _ => exact hold (by simpa [effect] using hnew)
  -- the five places where a worker looks for the signal
  | pollStopped hs | abandon hs | idleStopped _ hs | yieldStopped hs | pauseStopped hs =>
    exact hs
  | leave => exact hold (.inl rfl)
  | start | call | logFailure | complete =>
    simp only [spoken] at hnew
    split at hnew <;> simp [effect] at hnew
  | @reportDropped _ after _ =>
    simp only [spoken] at hnew
    split at hnew <;> cases after <;> simp [effect, Phase.afterReport] at hnew
  | @reportTaken _ after _ => cases after <;> simp [effect, Phase.afterReport] at hnew
  | pollBegin _ | deliver _ _ | deliverNone _ _ | receiveFailed _ _ | receivePanicked _ _
  | yield _ | pauseBegin _ _ | yieldOver _ | pauseOver _ _ | taskStop | taskOk | taskFailed
  | taskPanicked _ | taskRecovered _ _ | taskLost _ _ | disposalPanicked | deleteStop
  | deleteOk | deleteFailed | deletePanicked => simp [effect] at hnew

theorem LeavesOnStop.step {s : Pool} {w : Nat} (h : LeavesOnStop w s) (l : Label) :
    LeavesOnStop w (s.step l) := by
  intro hnew
  rcases step_view s l w with ⟨hacts, hphase⟩ | ⟨phase, e, hp, ht, he⟩
  · rw [hacts, hphase] at hnew
    exact stop_step (h hnew) l
  · rw [he, phase_apply_self hp, acts_apply_self, List.mem_append] at hnew
    -- an old exit has seen the signal by `h`, a new one by the turn itself
    by_cases hx : .exited ∈ s.acts w
    · exact stop_step (h (.inr (.inr hx))) l
    · have hs : s.stop = true := by
        refine ht.leaves (fun hold => ?_) (by simpa [hx] using hnew)
        rcases hold with rfl | rfl
        · exact h (.inl hp)
        · exact h (.inr (.inl hp))
      exact stop_step hs l

/-- **Nobody leaves early.** In every run, a worker that leaves the loop has seen the
    stop signal. -/
theorem run_leavesOnStop {params : PoolParams} {around : Surroundings} {s : Pool}
    (hs : Launched params around s) (w : Nat) (labels : List Label) :
    LeavesOnStop w (s.run labels) := by
  apply run_invariant (I := LeavesOnStop w)
  · intro h
    rw [hs.acts_eq_nil] at h
    rcases h with h | h | h
    · exact absurd (hs.phase h) (by simp)
    · exact absurd (hs.phase h) (by simp)
    · simp at h
  · intro t l h
    exact h.step l

end ConsumerPool.Pool
