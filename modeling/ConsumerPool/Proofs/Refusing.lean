import ConsumerPool.Proofs.Launching
import ConsumerPool.Proofs.Lockstep

/-! # Refusing Parameters

  Two checks stand at the beginning of a start, one for the pool and one for the client
  that is made where none is given. Taken together they are one list of rules: the first
  rule that is broken tells the error, and nothing has been done by then. Over a given
  client the region and the two numbers of the queue parameters break no rule, and nobody
  reads them later. -/

namespace ConsumerPool

/-! ### The rules -/

namespace PoolParams

/-- Whether parameters break a rule, and the error if they do. -/
structure Rule where
  broken : Bool
  error : PoolError

def poolRules (params : PoolParams) : List Rule :=
  [ ⟨params.workerCount = 0, .invalidConfig "worker count must be at least 1"⟩,
    ⟨params.queue.url = "", .invalidConfig "missing queue url"⟩,
    ⟨params.clientGiven = false ∧ params.queue.region = "",
      .invalidConfig "missing region, required because no client is set"⟩,
    ⟨params.errorCapacity = 0,
      .invalidConfig "error channel capacity must be at least 1"⟩ ]

/-- The rules for the client that is made where none is given. -/
def clientRules (params : PoolParams) : List Rule :=
  [ ⟨params.clientGiven = false ∧
        ¬ (1 ≤ params.queue.maxMessages ∧ params.queue.maxMessages ≤ 10),
      .initialization ("max received messages must be from 1 to 10, got "
        ++ Text.numeral params.queue.maxMessages)⟩,
    ⟨params.clientGiven = false ∧
        ¬ (0 ≤ params.queue.waitSeconds ∧ params.queue.waitSeconds ≤ 20),
      .initialization ("wait time seconds must be from 0 to 20, got "
        ++ Text.numeral params.queue.waitSeconds)⟩ ]

def rules (params : PoolParams) : List Rule := params.poolRules ++ params.clientRules

/-- The error of the first of some rules that is broken. -/
def firstBroken? (rules : List Rule) : Option PoolError :=
  (rules.find? Rule.broken).map Rule.error

theorem firstBroken?_append (rules rules' : List Rule) :
    firstBroken? (rules ++ rules') = (firstBroken? rules).or (firstBroken? rules') := by
  unfold firstBroken?
  rw [List.find?_append]
  cases rules.find? Rule.broken <;> rfl

/-- The check of the pool finds the first of its rules that is broken. -/
theorem fault?_error_eq (params : PoolParams) :
    params.fault?.map Fault.error = firstBroken? params.poolRules := by
  unfold fault? firstBroken? poolRules
  by_cases hworkers : params.workerCount = 0
  · simp [hworkers, Fault.error, Fault.message]
  by_cases hurl : params.queue.url = ""
  · simp [hworkers, hurl, Fault.error, Fault.message]
  by_cases hregion : params.clientGiven = false ∧ params.queue.region = ""
  · simp [hworkers, hurl, hregion, Fault.error, Fault.message]
  by_cases hcapacity : params.errorCapacity = 0
  · simp [hworkers, hurl, hregion, hcapacity, Fault.error, Fault.message]
  · simp [hworkers, hurl, hregion, hcapacity]

/-- The check of the client does so too if there is an address. -/
theorem queue_fault?_error_eq {params : PoolParams} (hgiven : params.clientGiven = false)
    (hurl : params.queue.url ≠ "") :
    params.queue.fault?.map QueueParams.Fault.error = firstBroken? params.clientRules := by
  unfold QueueParams.fault? firstBroken? clientRules maxBatchSize maxWaitSeconds
  by_cases hmax : 1 ≤ params.queue.maxMessages ∧ params.queue.maxMessages ≤ 10
  · by_cases hwait : 0 ≤ params.queue.waitSeconds ∧ params.queue.waitSeconds ≤ 20
    · simp [hgiven, hurl, hmax, hwait]
    · have herror : QueueParams.Fault.error (.waitSeconds params.queue.waitSeconds) =
          .initialization ("wait time seconds must be from 0 to 20, got "
            ++ Text.numeral params.queue.waitSeconds) := rfl
      simp [hgiven, hurl, hmax, hwait, herror]
  · have herror : QueueParams.Fault.error (.maxMessages params.queue.maxMessages) =
        .initialization ("max received messages must be from 1 to 10, got "
          ++ Text.numeral params.queue.maxMessages) := rfl
    simp [hgiven, hurl, hmax, herror]

theorem clientRules_of_given {params : PoolParams} (hgiven : params.clientGiven = true) :
    firstBroken? params.clientRules = none := by
  simp [firstBroken?, clientRules, hgiven]

/-- Parameters are refused with the error of the first rule that is broken. -/
theorem refusal?_eq_firstBroken? (params : PoolParams) :
    params.refusal? = firstBroken? params.rules := by
  rw [rules, firstBroken?_append, ← fault?_error_eq]
  unfold refusal?
  cases hfault : params.fault? with
  | some fault => rfl
  | none =>
    cases hgiven : params.clientGiven with
    | true => simp [clientRules_of_given hgiven]
    | false =>
      -- the check of the pool has looked for the address already
      have hurl : params.queue.url ≠ "" := by
        intro hnone
        simp only [fault?, hnone, if_true] at hfault
        split at hfault <;> cases hfault
      simp [queue_fault?_error_eq hgiven hurl]

theorem append_ne_of_length {a b c : String} (h : c.length < a.length) : a ++ b ≠ c := by
  intro heq
  have hlength := congrArg String.length heq
  rw [String.length_append] at hlength
  omega

/-- No rule is broken with the error that a client has for a missing address. -/
theorem firstBroken?_ne_missing (params : PoolParams) :
    firstBroken? params.rules ≠ some (.initialization "missing queue url") := by
  intro h
  obtain ⟨rule, hfind, herror⟩ := Option.map_eq_some_iff.mp h
  have hmem := List.mem_of_find?_eq_some hfind
  simp only [rules, poolRules, clientRules, List.mem_append, List.mem_cons,
    List.not_mem_nil, or_false] at hmem
  -- the rules for the pool have other errors, those for the client longer texts
  rcases hmem with (rfl | rfl | rfl | rfl) | (rfl | rfl)
  · cases herror
  · cases herror
  · cases herror
  · cases herror
  · exact append_ne_of_length (by decide) (PoolError.initialization.inj herror)
  · exact append_ne_of_length (by decide) (PoolError.initialization.inj herror)

def onQueue (params : PoolParams) (queue : QueueParams) : PoolParams := { params with queue }

end PoolParams

namespace Pool

/-! ### What is overlooked -/

def onQueue (s : Pool) (queue : QueueParams) : Pool :=
  { s with params := s.params.onQueue queue }

/-- No step reads the queue parameters. -/
theorem step_onQueue (s : Pool) (queue : QueueParams) (l : Label) :
    (s.onQueue queue).step l = (s.step l).onQueue queue := by
  cases hl : l.actor? with
  | some w =>
    have halike : Alike s (s.onQueue queue) :=
      ⟨rfl, rfl, rfl, rfl, rfl, rfl, rfl, fun _ => rfl⟩
    rcases halike.same_step rfl hl with ⟨hstay, hstay'⟩ | ⟨e, he, he'⟩
    · rw [hstay, hstay']
    · rw [he, he']
      rfl
  | none =>
    cases l with
    | run _ | task _ _ | delete _ _ => cases hl
    | push _ | fireStop | advance _ | setTransform _ | closeErrors | dropHandle => rfl
    | readError =>
      have hread : (s.onQueue queue).channel.read (s.onQueue queue).senders =
        s.channel.read s.senders := rfl
      simp only [step, readError, hread]
      split <;> rfl
    | dropErrors =>
      have hreceiver : (s.onQueue queue).channel.receiver = s.channel.receiver := rfl
      simp only [step, dropErrors, hreceiver]
      split <;> rfl
    | join =>
      have hhandle : (s.onQueue queue).handle = s.handle := rfl
      simp only [step, beginJoin, hhandle]
      split <;> rfl
    | shutdown =>
      have hhandle : (s.onQueue queue).handle = s.handle := rfl
      simp only [step, shutdown, hhandle]
      split
      · simp only [beginJoin, fireStop, hhandle]
        split <;> rfl
      all_goals rfl

theorem run_onQueue (s : Pool) (queue : QueueParams) (labels : List Label) :
    (s.onQueue queue).run labels = (s.run labels).onQueue queue := by
  induction labels generalizing s with
  | nil => rfl
  | cons l ls ih => rw [run_cons, run_cons, step_onQueue, ih]

end Pool

def Start.onQueue (queue : QueueParams) : Start → Start
  | .refused e => .refused e
  | .panicked payload orphans => .panicked payload (orphans.map (·.onQueue queue))
  | .started s => .started (s.onQueue queue)

namespace Pool

/-- Over a given client a start looks for nothing but the address in the queue
    parameters. -/
theorem start_onQueue {params : PoolParams} (hgiven : params.clientGiven = true)
    {queue : QueueParams} (hurl : queue.url = params.queue.url) (around : Surroundings) :
    start (params.onQueue queue) around = (start params around).onQueue queue := by
  have hrefusal : (params.onQueue queue).refusal? = params.refusal? := by
    simp [PoolParams.refusal?, PoolParams.fault?, PoolParams.onQueue, hgiven, hurl]
  have hsize : oversize? (params.onQueue queue) = oversize? params := rfl
  -- the line about the start names the address, which is the same
  have hwrite : (spawned (params.onQueue queue) around).write none
      (.poolStarted (params.onQueue queue).workerCount (params.onQueue queue).queue.url) =
        (((spawned params around).write none
            (.poolStarted params.workerCount params.queue.url)).1.onQueue queue,
          ((spawned params around).write none
            (.poolStarted params.workerCount params.queue.url)).2) := by
    have hsame : (params.onQueue queue).queue.url = params.queue.url := hurl
    rw [hsame]
    rfl
  unfold start
  rw [hrefusal, hsize, hwrite]
  cases params.refusal? with
  | some e => rfl
  | none =>
    cases oversize? params with
    | some payload => rfl
    | none =>
      rcases (spawned params around).write none
        (.poolStarted params.workerCount params.queue.url) with ⟨s, _ | payload⟩ <;> rfl

/-! ### The guarantee -/

theorem start_eq_refused_iff (params : PoolParams) (around : Surroundings) (e : PoolError) :
    start params around = .refused e ↔ params.refusal? = some e := by
  unfold start
  cases params.refusal? with
  | some e' => simp
  | none =>
    cases oversize? params with
    | some payload => simp
    | none =>
      simp only
      split <;> simp

/-- A start makes a pool exactly if none of its parts ends it. -/
theorem exists_started_iff (params : PoolParams) (around : Surroundings) :
    (∃ s, start params around = .started s) ↔ params.refusal? = none ∧
      oversize? params = none ∧ params.loggerInUse.panics 0 (startLine params) = none := by
  have hwrite : (spawned params around).write none
      (.poolStarted params.workerCount params.queue.url) =
        (((spawned params around).write none (startLine params)).1,
          params.loggerInUse.panics 0 (startLine params)) := rfl
  unfold start
  rw [hwrite]
  cases params.refusal? with
  | some e => simp
  | none =>
    cases oversize? params with
    | some payload => simp
    | none => cases params.loggerInUse.panics 0 (startLine params) <;> simp

theorem performed_of_started {params : PoolParams} {around : Surroundings} {s : Pool}
    (h : start params around = .started s) :
    performed params = (.ok (), allDeeds params) ∧
      s = (ofDeeds params around (allDeeds params)).dropSender := by
  obtain ⟨hrefusal, hsize, hlogger⟩ := (exists_started_iff params around).mp ⟨s, h⟩
  rw [oversize?_eq, Option.or_eq_none_iff] at hsize
  have hperformed : performed params = (.ok (), allDeeds params) := by
    rw [performed_eq, hrefusal, hsize.1, hsize.2, hlogger]
  rw [start_eq_startOf, hperformed] at h
  exact ⟨hperformed, (Start.started.inj h).symm⟩

/-- How a start treats its parameters. -/
structure Admits (params : PoolParams) (around : Surroundings) : Prop where
  /-- It comes to what its parts, taken in order, amount to. -/
  parts : start params around = startOf params around (performed params)
  /-- It is refused exactly with the error of the first rule that is broken. -/
  first : ∀ e, start params around = .refused e ↔
    PoolParams.firstBroken? params.rules = some e
  /-- It has done nothing by then, and nothing runs. -/
  atomic : ∀ e, start params around = .refused e →
    performed params = (.error (.refused e), []) ∧ (start params around).running? = none
  /-- Over a given client it looks for nothing but the address in the queue parameters, and
      what it leaves never reads them. -/
  overlooks : params.clientGiven = true → ∀ queue : QueueParams,
    queue.url = params.queue.url →
      start (params.onQueue queue) around = (start params around).onQueue queue ∧
      ∀ s labels, (start params around).running? = some s →
        (s.onQueue queue).run labels = (s.run labels).onQueue queue
  /-- The check of the client never finds that the address is missing. -/
  masked : start params around ≠ .refused (.initialization "missing queue url")
  /-- It makes a pool exactly if no rule is broken, nothing is too large and the logger takes
      its line. -/
  started_iff : (∃ s, start params around = .started s) ↔
    PoolParams.firstBroken? params.rules = none ∧ params.Fits ∧
      params.loggerInUse.panics 0 (startLine params) = none
  /-- It has spawned as many workers as asked for then, by number; none has ended, no error
      has been dropped, no response taken, and one line is written. -/
  started : ∀ s, start params around = .started s → 0 < params.workerCount ∧
    (performed params).2.filterMap Deed.worker? = List.range params.workerCount ∧
    s.workers = List.replicate params.workerCount .spawned ∧
    s.workerCount = params.workerCount ∧ (∀ phase ∈ s.workers, phase.ended = false) ∧
    s.isFinished = false ∧ s.droppedErrors = 0 ∧ s.queue = around.queue ∧
    s.record = [⟨around.clock, none, .logged (startLine params)⟩]

/-- **Starts.** A start is refused for the first rule that its parameters break and has done
    nothing then; it makes a pool of as many workers as asked for otherwise, unless it
    panics. -/
theorem start_admits (params : PoolParams) (around : Surroundings) :
    Admits params around := by
  have hfirst : ∀ e, start params around = .refused e ↔
      PoolParams.firstBroken? params.rules = some e := by
    intro e
    rw [start_eq_refused_iff, PoolParams.refusal?_eq_firstBroken?]
  constructor
  case parts => exact start_eq_startOf params around
  case first => exact hfirst
  case atomic =>
    intro e h
    have hrefusal := (start_eq_refused_iff params around e).mp h
    refine ⟨?_, by rw [h]; rfl⟩
    rw [performed_eq, hrefusal]
  case overlooks =>
    intro hgiven queue hurl
    exact ⟨start_onQueue hgiven hurl around, fun s labels _ => run_onQueue s queue labels⟩
  case masked =>
    intro h
    exact params.firstBroken?_ne_missing ((hfirst _).mp h)
  case started_iff =>
    rw [← PoolParams.refusal?_eq_firstBroken?, ← oversize?_eq_none_iff]
    exact exists_started_iff params around
  case started =>
    intro s h
    obtain ⟨hperformed, rfl⟩ := performed_of_started h
    have hrefusal := ((exists_started_iff params around).mp ⟨_, h⟩).1
    have hcount := Nat.pos_of_ne_zero (workerCount_ne_zero hrefusal)
    rw [hperformed, ofDeeds_allDeeds]
    refine ⟨hcount, workers_allDeeds params, rfl, List.length_replicate, ?_, ?_, rfl, rfl, rfl⟩
    · intro phase hmem
      rw [List.eq_of_mem_replicate hmem]
      rfl
    · rw [isFinished, List.all_eq_false]
      exact ⟨.spawned, List.mem_replicate.mpr ⟨Nat.pos_iff_ne_zero.mp hcount, rfl⟩, by decide⟩

/-- Of several faults the first one is told, also where the stop signal has fired. -/
example : start { queue := { maxMessages := 11 }, workerCount := 0, errorCapacity := 0 }
    { stop := true } = .refused (.invalidConfig "worker count must be at least 1") := rfl

end Pool

end ConsumerPool
