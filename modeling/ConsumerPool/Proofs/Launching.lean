import ConsumerPool.Proofs.Starting
import Mathlib.Data.List.Basic

/-! # The Order of a Start

  A start takes its parts in order: two checks, the client, the error channel, the
  handle, the workers one by one, and a line for the logger. Each part can end it, so what
  it has done by then is told by the deeds before that part. `launch` is this program; a
  start comes to what its deeds amount to (`start_eq_startOf`). -/

namespace ConsumerPool

namespace Pool

/-! ### The parts of a start -/

/-- What a start does that can be felt outside. -/
inductive Deed where
  | clientMade
  | channelMade
  /-- It spawns a worker, which runs from then on. -/
  | spawned (worker : Nat)
  | logged (line : LogLine)
deriving DecidableEq

/-- Why a start ends before its time. -/
inductive Abort where
  | refused (error : PoolError)
  | panicked (payload : Payload)

/-- A part of a start: it adds deeds to those done, and may end the start. -/
abbrev Launch := ExceptT Abort (StateM (List Deed))

namespace Launch

def deed (d : Deed) : Launch Unit := modify (· ++ [d])

/-- Ends the start if there is a reason. -/
def endOn (reason : Option Abort) : Launch Unit :=
  match reason with
  | some abort => throw abort
  | none => pure ()

/-- How it ends after these deeds, and all deeds then. -/
def perform (x : Launch Unit) (deeds : List Deed) : Except Abort Unit × List Deed :=
  x.run.run deeds

end Launch

/-- What making the error channel panics with, if it does. -/
def channelPanic? (params : PoolParams) : Option Payload :=
  if params.errorCapacity > ErrorChannel.maxCapacity then
    some (.text ("a semaphore may not have more than MAX_PERMITS permits ("
      ++ toString ErrorChannel.maxCapacity ++ ")"))
  else none

/-- What making room for the workers in the handle panics with, if it does. -/
def handlePanic? (params : PoolParams) : Option Payload :=
  if params.workerCount * handleEntrySize > maxHandleSize then
    some (.text "capacity overflow")
  else none

def startLine (params : PoolParams) : LogLine :=
  .poolStarted params.workerCount params.queue.url

/-- The checks, and the client where none is given. -/
def prepare (params : PoolParams) : Launch Unit := do
  Launch.endOn (params.fault?.map fun fault => .refused fault.error)
  if params.clientGiven = false then
    Launch.endOn (params.queue.fault?.map fun fault => .refused fault.error)
    Launch.deed .clientMade

/-- A start, part by part. -/
def launch (params : PoolParams) : Launch Unit := do
  prepare params
  Launch.endOn ((channelPanic? params).map .panicked)
  Launch.deed .channelMade
  Launch.endOn ((handlePanic? params).map .panicked)
  forM (List.range params.workerCount) fun w => Launch.deed (.spawned w)
  Launch.deed (.logged (startLine params))
  Launch.endOn ((params.loggerInUse.panics 0 (startLine params)).map .panicked)

/-- Why a start ends before its time, if it does, and all its deeds. -/
def performed (params : PoolParams) : Except Abort Unit × List Deed :=
  (launch params).perform []

/-! ### What deeds amount to -/

namespace Deed

def worker? : Deed → Option Nat
  | .spawned w => some w
  | .clientMade | .channelMade | .logged _ => none

def line? : Deed → Option LogLine
  | .logged line => some line
  | .clientMade | .channelMade | .spawned _ => none

/-- Whether a sender of the error channel comes into being: the first one with the channel,
    and a clone of it for each worker. -/
def makesSender : Deed → Bool
  | .channelMade | .spawned _ => true
  | .clientMade | .logged _ => false

end Deed

/-- The pool that runs after these deeds. -/
def ofDeeds (params : PoolParams) (around : Surroundings) (deeds : List Deed) : Pool :=
  { spawned params around with
    workers := (deeds.filterMap Deed.worker?).map fun _ => .spawned
    lines := (deeds.filterMap Deed.line?).length
    senders := deeds.countP Deed.makesSender
    record := (deeds.filterMap Deed.line?).map fun line => ⟨around.clock, none, .logged line⟩ }

/-- What a start comes to that ends like this after these deeds. If it panics, its owner
    gets nothing, and what runs is what was spawned. The first sender goes in any case. -/
def startOf (params : PoolParams) (around : Surroundings) :
    Except Abort Unit × List Deed → Start
  | (.ok (), deeds) => .started (ofDeeds params around deeds).dropSender
  | (.error (.refused e), _) => .refused e
  | (.error (.panicked payload), deeds) =>
    .panicked payload <|
      if deeds.filterMap Deed.worker? = [] then none
      else
        let s := (ofDeeds params around deeds).dropSender
        some { s with channel := s.channel.drop, handle := .released }

/-! ### How the parts run -/

namespace Launch

@[simp] theorem perform_deed (d : Deed) (deeds : List Deed) :
    (deed d).perform deeds = (.ok (), deeds ++ [d]) := rfl

@[simp] theorem perform_pure (deeds : List Deed) :
    (pure () : Launch Unit).perform deeds = (.ok (), deeds) := rfl

@[simp] theorem perform_endOn_some (abort : Abort) (deeds : List Deed) :
    (endOn (some abort)).perform deeds = (.error abort, deeds) := rfl

@[simp] theorem perform_endOn_none (deeds : List Deed) :
    (endOn none).perform deeds = (.ok (), deeds) := rfl

/-- Of two parts the second is taken unless the first ends the start. -/
@[simp] theorem perform_bind (x : Launch Unit) (y : Unit → Launch Unit) (deeds : List Deed) :
    (x >>= y).perform deeds =
      match x.perform deeds with
      | (.ok (), deeds') => (y ()).perform deeds'
      | (.error abort, deeds') => (.error abort, deeds') := by
  unfold perform
  rw [ExceptT.run_bind, StateT.run_bind]
  rcases x.run.run deeds with ⟨_ | _, deeds'⟩ <;> rfl

@[simp] theorem perform_spawn (ws : List Nat) (deeds : List Deed) :
    Launch.perform (forM ws fun w => deed (.spawned w)) deeds =
      (.ok (), deeds ++ ws.map .spawned) := by
  induction ws generalizing deeds with
  | nil => rw [List.forM_nil, List.map_nil, List.append_nil]; rfl
  | cons w ws ih =>
    rw [List.forM_cons, perform_bind, perform_deed]
    simp [ih]

end Launch

/-- What a start has done when it makes the error channel. -/
def prepared (params : PoolParams) : List Deed :=
  if params.clientGiven then [] else [.clientMade]

/-- All that a start does. -/
def allDeeds (params : PoolParams) : List Deed :=
  prepared params ++ .channelMade :: (List.range params.workerCount).map .spawned ++
    [.logged (startLine params)]

/-- A start that is refused has done nothing by then. -/
theorem perform_prepare (params : PoolParams) : (prepare params).perform [] =
    match params.refusal? with
    | some e => (.error (.refused e), [])
    | none => (.ok (), prepared params) := by
  unfold prepare PoolParams.refusal? prepared
  cases params.fault? with
  | some fault => simp
  | none =>
    cases params.clientGiven with
    | true => simp
    | false => cases params.queue.fault? <;> simp

/-- How far a start gets. -/
theorem performed_eq (params : PoolParams) : performed params =
    match params.refusal? with
    | some e => (.error (.refused e), [])
    | none =>
      match channelPanic? params with
      | some payload => (.error (.panicked payload), prepared params)
      | none =>
        match handlePanic? params with
        | some payload => (.error (.panicked payload), prepared params ++ [.channelMade])
        | none =>
          match params.loggerInUse.panics 0 (startLine params) with
          | some payload => (.error (.panicked payload), allDeeds params)
          | none => (.ok (), allDeeds params) := by
  unfold performed launch
  rw [Launch.perform_bind, perform_prepare]
  -- the parts one after the other, each with the reason for which it may end the start
  cases params.refusal? with
  | some e => rfl
  | none =>
    cases channelPanic? params with
    | some payload => simp
    | none =>
      cases handlePanic? params with
      | some payload => simp
      | none => cases params.loggerInUse.panics 0 (startLine params) <;> simp [allDeeds]

theorem oversize?_eq (params : PoolParams) :
    oversize? params = (channelPanic? params).or (handlePanic? params) := by
  unfold oversize? channelPanic? handlePanic?
  split <;> rfl

theorem workers_prepared (params : PoolParams) :
    (prepared params).filterMap Deed.worker? = [] := by
  unfold prepared
  split <;> rfl

theorem workers_allDeeds (params : PoolParams) :
    (allDeeds params).filterMap Deed.worker? = List.range params.workerCount := by
  have hspawned : ((List.range params.workerCount).map Deed.spawned).filterMap Deed.worker? =
      List.range params.workerCount := by
    rw [List.filterMap_map]
    exact List.filterMap_some
  rw [allDeeds, List.filterMap_append, List.filterMap_append, workers_prepared,
    List.filterMap_cons_none rfl, hspawned]
  simp [Deed.worker?]

theorem lines_allDeeds (params : PoolParams) :
    (allDeeds params).filterMap Deed.line? = [startLine params] := by
  have hprepared : (prepared params).filterMap Deed.line? = [] := by
    unfold prepared
    split <;> rfl
  rw [allDeeds, List.filterMap_append, List.filterMap_append, hprepared]
  simp [Deed.line?]

theorem senders_allDeeds (params : PoolParams) :
    (allDeeds params).countP Deed.makesSender = params.workerCount + 1 := by
  have hprepared : (prepared params).countP Deed.makesSender = 0 := by
    unfold prepared
    split <;> rfl
  have hspawned : ((List.range params.workerCount).map Deed.spawned).countP Deed.makesSender =
      params.workerCount := by
    simp [List.countP_map, Function.comp_def, Deed.makesSender]
  rw [allDeeds, List.countP_append, List.countP_append, List.countP_cons, hprepared, hspawned]
  simp [Deed.makesSender]

/-- All its deeds leave the pool that the start makes. -/
theorem ofDeeds_allDeeds (params : PoolParams) (around : Surroundings) :
    ofDeeds params around (allDeeds params) =
      ((spawned params around).write none (startLine params)).1 := by
  have hworkers : (List.range params.workerCount).map (fun _ => Phase.spawned) =
      List.replicate params.workerCount .spawned := by
    rw [List.map_const', List.length_range]
  simp [ofDeeds, workers_allDeeds, lines_allDeeds, senders_allDeeds, hworkers, write, note,
    spawned]

theorem workerCount_ne_zero {params : PoolParams} (h : params.refusal? = none) :
    params.workerCount ≠ 0 := by
  intro hzero
  simp [PoolParams.refusal?, PoolParams.fault?, hzero] at h

/-- **The order of a start.** A start comes to what its parts, taken in order, amount to. -/
theorem start_eq_startOf (params : PoolParams) (around : Surroundings) :
    start params around = startOf params around (performed params) := by
  rw [performed_eq]
  unfold start
  rw [oversize?_eq]
  cases hrefusal : params.refusal? with
  | some e => rfl
  | none =>
    cases channelPanic? params with
    | some payload => simp [startOf, workers_prepared]
    | none =>
      cases handlePanic? params with
      | some payload => simp [startOf, workers_prepared, Deed.worker?]
      | none =>
        -- all workers exist now, and what is left is the line about the start
        have hwrite : (spawned params around).write none
            (.poolStarted params.workerCount params.queue.url) =
              (ofDeeds params around (allDeeds params),
                params.loggerInUse.panics 0 (startLine params)) := by
          rw [ofDeeds_allDeeds]
          rfl
        have hsome : List.range params.workerCount ≠ [] := by
          simpa using workerCount_ne_zero hrefusal
        simp only [Option.or_none, hwrite]
        cases params.loggerInUse.panics 0 (startLine params) with
        | none => rfl
        | some payload =>
          simp [startOf, workers_allDeeds, hsome, dropSender]

end Pool

end ConsumerPool
