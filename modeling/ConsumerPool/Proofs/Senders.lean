import ConsumerPool.Proofs.Turn

/-! # The Senders of the Error Channel

  A start clones a sender for each worker and drops the one it clones from, and
  a worker that ends drops its own. So in every run there are as many senders
  as workers that have not ended. -/

namespace ConsumerPool.Pool

/-- How many workers have not ended. -/
def liveCount (s : Pool) : Nat := s.workers.countP fun phase => !phase.ended

/-- Whether each worker that has not ended has a sender, and nobody else has. -/
def OneSenderEach (s : Pool) : Prop := s.senders = s.liveCount

theorem liveCount_eq_zero_iff (s : Pool) : s.liveCount = 0 ↔ s.isFinished = true := by
  simp [liveCount, isFinished, List.countP_eq_zero]

/-- A turn has a last act exactly if a worker that had not ended ends in it. -/
theorem Turn.countP_isLast {s : Pool} {w : Nat} {l : Label} {phase : Phase} {e : Effect}
    (ht : Turn s w l phase e) :
    (!phase.ended).toNat = e.acts.countP Act.isLast + (!e.phase.ended).toNat := by
  cases ht with
  | wait _ | noTask _ | noDelete _ => simp [effect]
  | start | call | logFailure | complete | leave =>
    simp only [spoken]
    split <;> rfl
  | @reportTaken _ after _ => cases after <;> rfl
  | @reportDropped _ after _ =>
    simp only [spoken]
    split
    · cases after <;> rfl
    · rfl
  | _ => rfl

theorem OneSenderEach.step {s : Pool} (h : s.OneSenderEach) (l : Label) :
    (s.step l).OneSenderEach := by
  unfold OneSenderEach at h ⊢
  cases stepKind s l with
  | outside _ hout => rw [hout.senders_eq, h, liveCount, liveCount, hout.workers_eq]
  | absent _ hsame => rw [hsame, h]
  | @turn w phase e _ hw ht he =>
    obtain ⟨hlt, hphase⟩ := List.getElem?_eq_some_iff.mp hw
    have hlast := ht.countP_isLast
    -- a worker that ends is one of those that are counted
    have hcounted : phase.ended = false → 0 < s.liveCount := fun hlive =>
      List.countP_pos_iff.mpr ⟨phase, List.mem_of_getElem? hw, by simp [hlive]⟩
    have hset : (s.apply w e).liveCount =
        s.liveCount - (!phase.ended).toNat + (!e.phase.ended).toNat := by
      simp only [liveCount, apply, List.countP_set hlt, hphase]
      cases phase.ended <;> cases e.phase.ended <;> rfl
    have hsenders : (s.apply w e).senders = s.senders - e.acts.countP Act.isLast := rfl
    rw [he, hset, hsenders, h]
    cases hended : phase.ended with
    | true =>
      simp only [hended, Bool.not_true, Bool.toNat_false] at hlast ⊢
      omega
    | false =>
      have hpos := hcounted hended
      simp only [hended, Bool.not_false, Bool.toNat_true] at hlast ⊢
      omega

/-- **One sender each.** In every run of every pool that a start leaves, the error channel
    has as many senders as there are workers that have not ended. -/
theorem run_oneSenderEach {params : PoolParams} {around : Surroundings} {s : Pool}
    (hs : Launched params around s) (labels : List Label) :
    (s.run labels).OneSenderEach := by
  refine run_invariant ?_ (fun t l h => h.step l) labels
  have hcount : s.liveCount = params.workerCount := by
    simp [liveCount, hs.workers_eq, List.countP_replicate, Phase.ended]
  rw [OneSenderEach, hs.senders_eq, hcount]

end ConsumerPool.Pool
