import ConsumerPool.Pool.Join
import ConsumerPool.Proofs.Lockstep

/-! # The Handle Only Observes

  Waiting for a pool, giving up the wait and dropping the handle change nothing but the
  handle, and reading it is no step at all. A shutdown by the owner comes to firing the
  stop signal. So what a run does to the rest of the pool is what is left of it without
  the handle does (`bare_run`), and two runs of which the same is left agree in all but
  the handle, from point to point. -/

namespace ConsumerPool

/-! ### Runs without the handle -/

/-- Whether a label is a use of the handle. -/
def Label.usesHandle : Label → Bool
  | .join | .shutdown | .dropHandle => true
  | .run _ | .task _ _ | .delete _ _ | .push _ | .fireStop | .advance _ | .setTransform _
  | .readError | .closeErrors | .dropErrors => false

namespace Handle

/-- What has become of the handle after a label. -/
def after : Handle → Label → Handle
  | _, .dropHandle => .released
  | .held, .join | .held, .shutdown => .joining
  | handle, _ => handle

/-- What a label comes to without the handle: a shutdown by the owner is the stop signal,
    and nothing else that is done with the handle counts. -/
def leaves : Handle → Label → List Label
  | _, .join | _, .dropHandle => []
  | .held, .shutdown => [.fireStop]
  | .joining, .shutdown | .released, .shutdown => []
  | _, label => [label]

/-- What a run comes to without the handle. -/
def bare : Handle → List Label → List Label
  | _, [] => []
  | handle, l :: ls => handle.leaves l ++ (handle.after l).bare ls

/-- What has become of the handle after several labels. -/
def afterAll (handle : Handle) (labels : List Label) : Handle := labels.foldl after handle

theorem leaves_eq (handle : Handle) {l : Label} (hl : l.usesHandle = false) :
    handle.leaves l = [l] := by
  cases l with
  | join | shutdown | dropHandle => cases hl
  | _ => cases handle <;> rfl

/-- Without the handle a label comes to one label at most. -/
theorem leaves_cases (handle : Handle) (l : Label) :
    handle.leaves l = [] ∨ ∃ m, handle.leaves l = [m] := by
  cases hl : l.usesHandle with
  | false => exact .inr ⟨l, handle.leaves_eq hl⟩
  | true =>
    cases l with
    | join | dropHandle => exact .inl rfl
    | shutdown =>
      cases handle with
      | held => exact .inr ⟨.fireStop, rfl⟩
      | joining | released => exact .inl rfl
    | _ => cases hl

theorem bare_append (handle : Handle) (ls ms : List Label) :
    handle.bare (ls ++ ms) = handle.bare ls ++ (handle.afterAll ls).bare ms := by
  induction ls generalizing handle with
  | nil => rfl
  | cons l ls ih =>
    simp only [List.cons_append, bare, ih, List.append_assoc]
    rfl

theorem bare_eq_filter (handle : Handle) {labels : List Label} (h : .shutdown ∉ labels) :
    handle.bare labels = labels.filter (!·.usesHandle) := by
  induction labels generalizing handle with
  | nil => rfl
  | cons l ls ih =>
    rw [List.mem_cons, not_or] at h
    rw [bare, ih _ h.2]
    cases l with
    | shutdown => exact absurd rfl h.1
    | join | dropHandle => rfl
    | _ => rw [handle.leaves_eq rfl]; rfl

/-- Every part of what is left of a run is left of a part of it. -/
theorem exists_prefix_bare (handle : Handle) {labels left : List Label}
    (h : left <+: handle.bare labels) :
    ∃ part, part <+: labels ∧ handle.bare part = left := by
  induction labels generalizing handle left with
  | nil =>
    obtain rfl : left = [] := List.prefix_nil.mp h
    exact ⟨[], List.nil_prefix, rfl⟩
  | cons l ls ih =>
    cases left with
    | nil => exact ⟨[], List.nil_prefix, rfl⟩
    | cons m rest =>
      rw [bare] at h
      -- the first label left is that of `l`, unless nothing is left of `l`
      rcases handle.leaves_cases l with hnone | ⟨m', hone⟩
      · rw [hnone, List.nil_append] at h
        obtain ⟨part, hpart, heq⟩ := ih (handle.after l) h
        exact ⟨l :: part, List.cons_prefix_cons.mpr ⟨rfl, hpart⟩, by rw [bare, hnone, heq]; rfl⟩
      · rw [hone, List.singleton_append, List.cons_prefix_cons] at h
        obtain ⟨rfl, hrest⟩ := h
        obtain ⟨part, hpart, heq⟩ := ih (handle.after l) hrest
        exact ⟨l :: part, List.cons_prefix_cons.mpr ⟨rfl, hpart⟩, by rw [bare, hone, heq]; rfl⟩

end Handle

namespace Pool

/-! ### Pools without their handle -/

/-- The pool without its handle. -/
def bare (s : Pool) : Pool := { s with handle := .released }

theorem step_bare (s : Pool) {l : Label} (hl : l.usesHandle = false) :
    s.bare.step l = (s.step l).bare := by
  cases hact : l.actor? with
  | some w =>
    have halike : Alike s s.bare := ⟨rfl, rfl, rfl, rfl, rfl, rfl, rfl, fun _ => rfl⟩
    rcases halike.same_step rfl hact with ⟨hstay, hstay'⟩ | ⟨e, he, he'⟩
    · rw [hstay, hstay']
    · rw [he, he']
      rfl
  | none =>
    cases l with
    | run _ | task _ _ | delete _ _ => cases hact
    | join | shutdown | dropHandle => cases hl
    | push _ | fireStop | advance _ | setTransform _ | closeErrors => rfl
    | readError =>
      simp only [step, readError, bare]
      split <;> rfl
    | dropErrors =>
      simp only [step, dropErrors, bare]
      split <;> rfl

theorem handle_step (s : Pool) (l : Label) : (s.step l).handle = s.handle.after l := by
  cases hact : l.actor? with
  | some w =>
    -- a worker does not use the handle
    have hafter : s.handle.after l = s.handle := by
      cases l <;> cases hact <;> cases s.handle <;> rfl
    rcases s.step_of_actor hact with hsame | ⟨_, _, -, -, he⟩
    · rw [hsame, hafter]
    · rw [he, hafter]
      rfl
  | none =>
    cases l with
    | run _ | task _ _ | delete _ _ => cases hact
    | push _ | fireStop | advance _ | setTransform _ | closeErrors =>
      cases h : s.handle <;> simp [step, fireStop, setTransform, closeErrors, Handle.after, h]
    | dropHandle => rfl
    | join => cases h : s.handle <;> simp [step, beginJoin, Handle.after, h]
    | shutdown => cases h : s.handle <;> simp [step, shutdown, beginJoin, fireStop, Handle.after, h]
    | readError =>
      have hafter : s.handle.after .readError = s.handle := by cases s.handle <;> rfl
      rw [hafter]
      simp only [step, readError]
      split <;> rfl
    | dropErrors =>
      have hafter : s.handle.after .dropErrors = s.handle := by cases s.handle <;> rfl
      rw [hafter]
      simp only [step, dropErrors]
      split <;> rfl

/-- Without the handle, a step is what is left of its label. -/
theorem bare_step (s : Pool) (l : Label) :
    (s.step l).bare = s.bare.run (s.handle.leaves l) := by
  cases hl : l.usesHandle with
  | false => rw [s.handle.leaves_eq hl, run_cons, run_nil, step_bare s hl]
  | true =>
    cases l with
    | dropHandle => rfl
    | join =>
      simp only [step, beginJoin]
      split <;> rfl
    | shutdown =>
      cases h : s.handle <;>
        simp [step, shutdown, beginJoin, fireStop, bare, Handle.leaves, h]
    | _ => cases hl

/-- **The handle left out.** Without the handle, a run is what is left of its labels. -/
theorem bare_run (s : Pool) (labels : List Label) :
    (s.run labels).bare = s.bare.run (s.handle.bare labels) := by
  induction labels generalizing s with
  | nil => rfl
  | cons l ls ih => rw [run_cons, ih, bare_step, handle_step, Handle.bare, run_append]

/-! ### The guarantee -/

/-- The handle of a pool shows what the workers do and does not change it. Reading it is
    no step, so a run is the same with and without it. -/
structure OnlyObserves (s : Pool) : Prop where
  /-- Two runs of which the same is left without the handle agree in all but the handle:
      the record with all receives, calls, deletes, reports, lines, pauses and ends, the
      workers, the queue, the error channel with its counter, and the stop signal. -/
  runs : ∀ ls ms, s.handle.bare ls = s.handle.bare ms → (s.run ls).bare = (s.run ms).bare
  /-- They agree from point to point: to each part of the one belongs a part of the
      other. -/
  points : ∀ ls ms, s.handle.bare ls = s.handle.bare ms → ∀ part, part <+: ls →
    ∃ part', part' <+: ms ∧ (s.run part').bare = (s.run part).bare
  /-- So waiting, giving up the wait and dropping the handle may stand anywhere or nowhere
      in a run that the owner does not shut down. -/
  anywhere : ∀ ls ms, .shutdown ∉ ls → .shutdown ∉ ms →
    ls.filter (!·.usesHandle) = ms.filter (!·.usesHandle) →
    (s.run ls).bare = (s.run ms).bare
  /-- Where two runs agree so, the handle shows the same, waiting for the pool comes to the
      same, and the same workers have a step that is due. -/
  shows : ∀ ls ms, (s.run ls).bare = (s.run ms).bare →
    (s.run ls).workerCount = (s.run ms).workerCount ∧
    (s.run ls).droppedErrors = (s.run ms).droppedErrors ∧
    (s.run ls).isFinished = (s.run ms).isFinished ∧
    (s.run ls).joinStatus = (s.run ms).joinStatus ∧
    ∀ w, (s.run ls).canRun w = (s.run ms).canRun w
  /-- Dropping the handle stops no worker and does not close the error channel. -/
  drop : ∀ labels, (s.run labels).step .dropHandle = { s.run labels with handle := .released }
  /-- Nor does waiting for the pool. -/
  wait : ∀ labels, ((s.run labels).step .join).bare = (s.run labels).bare
  /-- A shutdown by the owner fires the stop signal and waits. -/
  shutdown : ∀ labels, (s.run labels).handle = .held →
    (s.run labels).step .shutdown = { s.run labels with stop := true, handle := .joining }
  /-- Nothing else that is done with the handle fires it. -/
  onlyShutdown : ∀ labels l, l.usesHandle = true → (s.run labels).stop = false →
    ((s.run labels).step l).stop = true → l = .shutdown ∧ (s.run labels).handle = .held

/-- A use of the handle that fires the stop signal is a shutdown by the owner. -/
theorem shutdown_of_fires {s : Pool} {l : Label} (hl : l.usesHandle = true)
    (hs : s.stop = false) (hfires : (s.step l).stop = true) :
    l = .shutdown ∧ s.handle = .held := by
  -- a use of the handle that leaves the signal alone does not fire it
  have hsame (h : (s.step l).stop = s.stop) : False := by
    rw [h, hs] at hfires
    cases hfires
  cases l with
  | dropHandle => exact (hsame rfl).elim
  | join =>
    refine (hsame ?_).elim
    simp only [step, beginJoin]
    split <;> rfl
  | shutdown =>
    cases h : s.handle with
    | held => exact ⟨rfl, rfl⟩
    | joining | released => exact (hsame (by simp [step, Pool.shutdown, h])).elim
  | _ => cases hl

/-- **The handle only observes.** Whatever is done with the handle of a pool, at any point
    of any run, the workers do the same; only a shutdown counts, as the stop signal. -/
theorem run_onlyObserves (s : Pool) : OnlyObserves s := by
  have hruns : ∀ ls ms, s.handle.bare ls = s.handle.bare ms →
      (s.run ls).bare = (s.run ms).bare := by
    intro ls ms h
    rw [bare_run, bare_run, h]
  constructor
  case runs => exact hruns
  case points =>
    intro ls ms h part hpart
    -- what is left of the part is a part of what is left of the other run
    obtain ⟨rest, rfl⟩ := hpart
    have hleft : s.handle.bare part <+: s.handle.bare ms := by
      rw [← h, Handle.bare_append]
      exact List.prefix_append _ _
    obtain ⟨part', hpart', heq⟩ := s.handle.exists_prefix_bare hleft
    exact ⟨part', hpart', hruns part' part heq⟩
  case anywhere =>
    intro ls ms hls hms h
    exact hruns ls ms (by rw [Handle.bare_eq_filter _ hls, Handle.bare_eq_filter _ hms, h])
  case shows =>
    intro ls ms h
    have hworkers : (s.run ls).bare.workers = (s.run ms).bare.workers := by rw [h]
    have hchannel : (s.run ls).bare.channel = (s.run ms).bare.channel := by rw [h]
    have hcan (w : Nat) : (s.run ls).bare.canRun w = (s.run ms).bare.canRun w := by rw [h]
    -- none of these looks at the handle
    simp only [bare] at hworkers hchannel
    refine ⟨?_, ?_, ?_, ?_, hcan⟩
    · rw [workerCount, workerCount, hworkers]
    · rw [droppedErrors, droppedErrors, hchannel]
    · rw [isFinished, isFinished, hworkers]
    · rw [joinStatus, joinStatus, hworkers]
  case drop => exact fun _ => rfl
  case wait =>
    intro labels
    rw [bare_step]
    cases (s.run labels).handle <;> rfl
  case shutdown =>
    intro labels h
    simp [step, Pool.shutdown, beginJoin, fireStop, h]
  case onlyShutdown => exact fun labels l hl hs hfires => shutdown_of_fires hl hs hfires

/-- The first worker handles a message, with uses of the handle at first and while the
    task runs. -/
def handleOne (first between : List Label) : List Label :=
  first ++ [.run 0, .run 0, .run 0, .run 0] ++ between ++
    [.task 0 (.finish .ok), .delete 0 (.finish .ok), .run 0, .run 0]

/-- A handle that is dropped at first, or given up for waiting and then abandoned while the
    task runs, leaves a worker in its next receive; one that shuts the pool down then leaves
    it on its way out, as the bare stop signal does. -/
theorem run_onlyObserves_pair :
    OnlyObserves (pair [⟨.messages [default], false⟩]) ∧
    ((pair [⟨.messages [default], false⟩]).run (handleOne [.dropHandle] [])).bare =
      ((pair [⟨.messages [default], false⟩]).run
        (handleOne [] [.join, .dropHandle])).bare ∧
    ((pair [⟨.messages [default], false⟩]).run (handleOne [.dropHandle] [])).workers =
      [.receiving, .spawned] ∧
    ((pair [⟨.messages [default], false⟩]).run (handleOne [] [.shutdown])).bare =
      ((pair [⟨.messages [default], false⟩]).run (handleOne [] [.fireStop])).bare ∧
    ((pair [⟨.messages [default], false⟩]).run (handleOne [] [.shutdown])).workers =
      [.leaving, .spawned] :=
  ⟨run_onlyObserves _, (run_onlyObserves _).runs _ _ rfl, by decide,
    (run_onlyObserves _).runs _ _ rfl, by decide⟩

end Pool

end ConsumerPool
