import ConsumerPool.Proofs.Launching

/-! # Starts that Panic

  A start panics before it spawns a worker, where a size is too large, or after it has
  spawned all of them, where the logger panics on its line. In the second case nobody has
  the handle or the reader's end, and the workers run all the same: they receive messages,
  call the task on them and delete them until the stop signal fires. -/

namespace ConsumerPool.Pool

theorem sizePanic_eq_none_iff (params : PoolParams) :
    channelPanic? params = none ∧ handlePanic? params = none ↔ params.Fits := by
  rw [← oversize?_eq_none_iff, oversize?_eq, Option.or_eq_none_iff]

/-- A start spawns all its workers or none. -/
theorem workers_performed (params : PoolParams) :
    (performed params).2.filterMap Deed.worker? =
      if params.refusal? = none ∧ params.Fits then List.range params.workerCount else [] := by
  rw [performed_eq]
  simp only [← sizePanic_eq_none_iff]
  cases params.refusal? with
  | some e => rfl
  | none =>
    -- a panic of the channel or of the handle comes before the workers
    cases channelPanic? params with
    | some payload => simp [workers_prepared]
    | none =>
      cases handlePanic? params with
      | some payload => simp [workers_prepared, Deed.worker?]
      | none =>
        cases params.loggerInUse.panics 0 (startLine params) <;> simp [workers_allDeeds]

/-- **What a panic leaves.** A start that panics has spawned no worker, and nothing runs; or
    the logger has panicked on the line of the start. Then all workers have been spawned
    and run, nobody has the handle, and the reader's end does not exist any more. -/
theorem start_panicked {params : PoolParams} {around : Surroundings} {payload : Payload}
    {orphans : Option Pool} (h : start params around = .panicked payload orphans) :
    (¬ params.Fits ∧ (performed params).2.filterMap Deed.worker? = [] ∧ orphans = none) ∨
    (params.Fits ∧ params.loggerInUse.panics 0 (startLine params) = some payload ∧
      (performed params).2.filterMap Deed.worker? = List.range params.workerCount ∧
      ∃ s, orphans = some s ∧ Launched params around s ∧ s.handle = .released ∧
        s.channel.receiver = .gone) := by
  have hlaunched {s : Pool} (hs : orphans = some s) : Launched params around s :=
    launched_of_running (by rw [h, hs]; rfl)
  rw [workers_performed]
  unfold start at h
  split at h
  · cases h
  · next hrefusal =>
    split at h
    · next p hsize =>
      left
      have hlarge : ¬ params.Fits := by
        rw [← oversize?_eq_none_iff, hsize]
        exact Option.some_ne_none p
      obtain ⟨-, rfl⟩ := Start.panicked.inj h
      exact ⟨hlarge, if_neg fun hboth => hlarge hboth.2, rfl⟩
    · next hsize =>
      right
      have hfits : params.Fits := (oversize?_eq_none_iff params).mp hsize
      split at h
      · cases h
      · next s p hwrite =>
        -- the line is the first that the logger gets
        have hlogger : params.loggerInUse.panics 0 (startLine params) = some p :=
          congrArg Prod.snd hwrite
        obtain ⟨rfl, horphans⟩ := Start.panicked.inj h
        exact ⟨hfits, hlogger, if_pos ⟨hrefusal, hfits⟩, _, horphans.symm,
          hlaunched horphans.symm, rfl, rfl⟩

/-- One worker over a given client, and a logger that panics on the line of the start. -/
def noisy : PoolParams :=
  { queue := { region := "r", url := "u" }, clientGiven := true
    logger := some { panics := fun _ line => match line with
      | .poolStarted _ _ => some (.text "logger panic")
      | _ => none } }

/-- A channel that is too large leaves nothing, the noisy logger a worker. -/
theorem start_panicked_pair :
    (start roomy {} = .panicked
      (.text "a semaphore may not have more than MAX_PERMITS permits (2305843009213693951)")
      none ∧ (performed roomy).2.filterMap Deed.worker? = []) ∧
    ∃ s, start noisy {} = .panicked (.text "logger panic") (some s) ∧
      Launched noisy {} s ∧ (performed noisy).2.filterMap Deed.worker? = [0] := by
  have hroomy : start roomy {} = .panicked
      (.text "a semaphore may not have more than MAX_PERMITS permits (2305843009213693951)")
      none := rfl
  have hnoisy : ∃ s, start noisy {} = .panicked (.text "logger panic") (some s) := ⟨_, rfl⟩
  obtain ⟨s, hs⟩ := hnoisy
  refine ⟨⟨hroomy, ?_⟩, s, hs, ?_, ?_⟩
  · rcases start_panicked hroomy with ⟨-, hworkers, -⟩ | ⟨-, -, -, s, hsome, -⟩
    · exact hworkers
    · cases hsome
  · rcases start_panicked hs with ⟨-, -, hnone⟩ | ⟨-, -, -, s', hsome, hlaunched, -⟩
    · cases hnone
    · obtain rfl := Option.some.inj hsome
      exact hlaunched
  · rcases start_panicked hs with ⟨-, -, hnone⟩ | ⟨-, -, hworkers, -⟩
    · cases hnone
    · exact hworkers

/-- **A panic leaves orphans.** A start that panics need not have left everything as it was:
    the worker that the noisy logger leaves receives the message that waits, runs the task
    on it and deletes it. -/
theorem start_leaves_orphans :
    (¬ ∀ (params : PoolParams) (around : Surroundings) (payload : Payload)
      (orphans : Option Pool), start params around = .panicked payload orphans →
        (performed params).2.filterMap Deed.worker? = []) ∧
    ∃ s, start noisy { queue := [⟨.messages [default], false⟩] } =
        .panicked (.text "logger panic") (some s) ∧
      ((s.run [.run 0, .run 0, .run 0, .run 0, .task 0 (.finish .ok)]).acts 0).drop 1 =
        [.receiveBegun, .received (.messages [default]),
          .logged (.processing (Message.shownId default)), .taskBegun default,
          .taskEnded default .ok, .deleteBegun default] := by
  refine ⟨fun h => ?_, _, rfl, by decide⟩
  have hnone := h noisy {} (.text "logger panic") _ rfl
  have hone : (performed noisy).2.filterMap Deed.worker? = [0] := by decide
  cases hone.symm.trans hnone

end ConsumerPool.Pool
