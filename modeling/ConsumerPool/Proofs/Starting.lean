import ConsumerPool.Proofs.Run

/-! # Starting

  Parameters that pass the checks, over a client that is given or can be made, start a
  pool only if two sizes are small enough: the error channel must be able to have its
  capacity, and the handle must be able to hold all workers. The checks look for sizes of
  zero alone, so the start panics where a size is too large, before any worker exists. -/

namespace ConsumerPool

/-! ### What the checks say -/

theorem QueueParams.check_eq_ok_iff (params : QueueParams) :
    params.check = .ok () ↔ params.fault? = none := by
  unfold check
  cases params.fault? <;> simp

namespace PoolParams

theorem check_eq_ok_iff (params : PoolParams) :
    params.check = .ok () ↔ params.fault? = none := by
  unfold check
  cases params.fault? <;> simp

/-- A client is given, or one can be made. -/
def HasClient (params : PoolParams) : Prop :=
  params.clientGiven = true ∨ params.queue.check = .ok ()

theorem refusal?_eq_none_iff (params : PoolParams) :
    params.refusal? = none ↔ params.check = .ok () ∧ params.HasClient := by
  rw [check_eq_ok_iff, HasClient, QueueParams.check_eq_ok_iff]
  unfold refusal?
  cases params.fault? with
  | some fault => simp
  | none => cases params.clientGiven <;> simp

/-- The error channel can have its capacity, and the handle can hold all workers. -/
def Fits (params : PoolParams) : Prop :=
  params.errorCapacity ≤ ErrorChannel.maxCapacity ∧
    params.workerCount * Pool.handleEntrySize ≤ Pool.maxHandleSize

instance (params : PoolParams) : Decidable params.Fits :=
  inferInstanceAs (Decidable (_ ∧ _))

end PoolParams

namespace Pool

/-! ### What a start comes to -/

theorem oversize?_eq_none_iff (params : PoolParams) :
    oversize? params = none ↔ params.Fits := by
  unfold oversize? PoolParams.Fits
  split
  · next hlarge => simp [Nat.not_le.mpr hlarge]
  · next hcapacity =>
    split
    · next hlarge => simp [Nat.not_le.mpr hlarge]
    · next hcount => simp [Nat.le_of_not_lt hcapacity, Nat.le_of_not_lt hcount]

theorem start_of_oversize {params : PoolParams} {payload : Payload}
    (hr : params.refusal? = none) (h : oversize? params = some payload)
    (around : Surroundings) : start params around = .panicked payload none := by
  simp only [start, hr, h]

/-- A start that nothing is in the way of leaves a pool, with one line written. -/
theorem start_of_fits {params : PoolParams} (hr : params.refusal? = none)
    (hfits : params.Fits) (hlog : params.loggerInUse.Steady) (around : Surroundings) :
    start params around = .started ((spawned params around).write none
      (.poolStarted params.workerCount params.queue.url)).1.dropSender := by
  have hsize : oversize? params = none := (oversize?_eq_none_iff params).mpr hfits
  have htaken : (spawned params around).params.loggerInUse.panics
      (spawned params around).lines (.poolStarted params.workerCount params.queue.url) =
        none := hlog _ _
  simp only [start, hr, hsize, write, htaken]

/-- **When checked parameters start a pool.** With parameters that pass their check, a
    client and a logger that does not panic, a start leaves a pool of as many workers as
    asked for exactly if the parameters fit. Where they do not, it panics and nothing
    runs. -/
theorem start_checked {params : PoolParams} (hcheck : params.check = .ok ())
    (hclient : params.HasClient) (hlog : params.loggerInUse.Steady)
    (around : Surroundings) :
    (params.Fits → ∃ pool, start params around = .started pool ∧
      pool.workerCount = params.workerCount ∧ pool.handle = .held ∧
      Launched params around pool) ∧
    (¬ params.Fits → ∃ payload, start params around = .panicked payload none) := by
  have hr : params.refusal? = none := params.refusal?_eq_none_iff.mpr ⟨hcheck, hclient⟩
  constructor
  · intro hfits
    have hstart := start_of_fits hr hfits hlog around
    have hlaunched : Launched params around _ :=
      launched_of_running (by rw [hstart]; rfl)
    exact ⟨_, hstart, hlaunched.length_workers, rfl, hlaunched⟩
  · intro hlarge
    -- what does not fit is what is too large
    rw [← oversize?_eq_none_iff] at hlarge
    obtain ⟨payload, hpayload⟩ := Option.ne_none_iff_exists'.mp hlarge
    exact ⟨payload, start_of_oversize hr hpayload around⟩

def roomy : PoolParams :=
  { queue := { region := "r", url := "u" }, clientGiven := true
    errorCapacity := ErrorChannel.maxCapacity + 1 }

/-- Two workers start; a worker with too much room for errors does not. -/
theorem start_checked_pair :
    PoolParams.pair.check = .ok () ∧ PoolParams.pair.HasClient ∧
      PoolParams.pair.loggerInUse.Steady ∧ PoolParams.pair.Fits ∧
      (∃ pool, start .pair {} = .started pool ∧ pool.workerCount = 2) ∧
      roomy.check = .ok () ∧ roomy.HasClient ∧ roomy.loggerInUse.Steady ∧
      (∃ payload, start roomy {} = .panicked payload none) := by
  have hlog : PoolParams.pair.loggerInUse.Steady := fun _ _ => rfl
  have hroomy : roomy.loggerInUse.Steady := fun _ _ => rfl
  have hfits : PoolParams.pair.Fits := by decide
  obtain ⟨pool, hpool, hcount, -⟩ := (start_checked rfl (.inl rfl) hlog {}).1 hfits
  exact ⟨rfl, .inl rfl, hlog, hfits, ⟨pool, hpool, hcount⟩, rfl, .inl rfl, hroomy,
    (start_checked rfl (.inl rfl) hroomy {}).2 (by decide)⟩

/-- **The check is not complete.** It lets parameters pass whose start panics. -/
theorem check_incomplete : ¬ ∀ (params : PoolParams) (around : Surroundings),
    params.check = .ok () → params.HasClient → params.loggerInUse.Steady →
      ∃ pool, start params around = .started pool ∧
        pool.workerCount = params.workerCount := by
  intro h
  obtain ⟨pool, hpool, -⟩ := h roomy {} rfl (.inl rfl) (fun _ _ => rfl)
  have hpanic : start roomy {} = .panicked
      (.text "a semaphore may not have more than MAX_PERMITS permits (2305843009213693951)")
      none := rfl
  cases hpanic.symm.trans hpool

end Pool

end ConsumerPool
