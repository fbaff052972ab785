import ConsumerPool.Proofs.Recovery

/-! # Which Transform Counts

  The error recovered from a panic is changed by the transform of the pool if it
  has one, and else by the first transform that was set for the process, if one
  was set before the panic. `chosen` says so of the calls made by then, before
  the start and after it, and each panic is held against it. All other calls are
  idle: a run without them is the same run, and for a pool with a transform of
  its own every call is. -/

namespace ConsumerPool

variable {w : Nat}

/-! ### Calls -/

namespace Surroundings

/-- Sets a transform for the process before a start: only the first one counts. -/
def setTransform (around : Surroundings) (t : Transform) : Surroundings :=
  { around with processTransform := around.processTransform.or (some t) }

def setTransforms (around : Surroundings) (calls : List Transform) : Surroundings :=
  calls.foldl setTransform around

/-- Of several calls the first one counts. -/
theorem setTransforms_eq (around : Surroundings) (calls : List Transform) :
    around.setTransforms calls =
      { around with processTransform := around.processTransform.or calls.head? } := by
  induction calls generalizing around with
  | nil => simp [setTransforms]
  | cons t ts ih =>
    have hcons : around.setTransforms (t :: ts) = (around.setTransform t).setTransforms ts := rfl
    -- once the first call has been made, those after it change nothing
    have hfirst : (around.setTransform t).processTransform.or ts.head? =
        around.processTransform.or (some t) := by
      rw [setTransform, Option.or_assoc, Option.some_or]
    rw [hcons, ih, hfirst, List.head?_cons]
    rfl

end Surroundings

namespace Label

def transforms (labels : List Label) : List Transform := labels.filterMap transform?

def setsTransform (l : Label) : Bool := l.transform?.isSome

theorem eq_of_setsTransform {l : Label} (h : l.setsTransform = true) :
    ∃ t, l = .setTransform t := by
  cases l with
  | setTransform t => exact ⟨t, rfl⟩
  | _ => cases h

end Label

/-- The transform for a panic after calls: the pool's own if it has one, else that of the
    first call. -/
def PoolParams.chosen (params : PoolParams) (calls : List Transform) :
    Option (Origin × Transform) :=
  match params.transform with
  | some t => some (.pool, t)
  | none => calls.head?.map fun t => (.process, t)

/-- The change that it makes if it was called on these errors before. -/
def PoolParams.chosenAfter (params : PoolParams) (calls : List Transform)
    (changed : List TaskError) : Option (Origin × Change) :=
  (params.chosen calls).map fun (origin, t) => (origin, t changed)

namespace Pool

/-! ### The transform in force -/

theorem processTransform_run (s : Pool) (labels : List Label) :
    (s.run labels).processTransform =
      s.processTransform.or (Label.transforms labels).head? := by
  induction labels generalizing s with
  | nil => simp [Label.transforms]
  | cons l ls ih =>
    have hcons : Label.transforms (l :: ls) = l.transform?.toList ++ Label.transforms ls :=
      filterMap_cons_eq _ l ls
    rw [run_cons, ih, processTransform_step, hcons, List.head?_append, Option.or_assoc]
    cases l.transform? <;> rfl

/-- The calls made by now choose the transform in force. -/
def Chosen (s : Pool) (calls : List Transform) : Prop :=
  s.processTransform = calls.head?

theorem Chosen.run {s : Pool} {calls : List Transform} (h : s.Chosen calls)
    (labels : List Label) : (s.run labels).Chosen (calls ++ Label.transforms labels) := by
  rw [Chosen, processTransform_run, h, List.head?_append]

theorem Chosen.chosen_eq {s : Pool} {calls : List Transform} (h : s.Chosen calls) :
    s.chosenTransform = s.params.chosen calls := by
  have hset : s.processTransform = calls.head? := h
  cases hown : s.params.transform with
  | some own => simp only [chosenTransform, PoolParams.chosen, hown]
  | none => simp only [chosenTransform, PoolParams.chosen, hown, hset]

theorem Chosen.inForce {s : Pool} {calls : List Transform} (h : s.Chosen calls) :
    s.transformInForce = s.params.chosenAfter calls s.changed := by
  rw [transformInForce, h.chosen_eq, PoolParams.chosenAfter]

theorem Launched.chosen {params : PoolParams} {around : Surroundings} {s : Pool}
    {before : List Transform} (hl : Launched params (around.setTransforms before) s)
    (hfresh : around.processTransform = none) : s.Chosen before := by
  rw [Chosen, hl.processTransform_eq, Surroundings.setTransforms_eq, hfresh]
  exact Option.none_or

/-! ### One panic -/

/-- What a transform does with the error of a panic: the acts of the worker, and the errors
    it is to report then. -/
def transformed (m : Message) (p : Payload) : Option (Origin × Change) →
    List Act × List PoolError
  | none => ([.taskEnded m (.panicked (.plain p))], [.task m.shownId p.recovered])
  | some (origin, change) =>
    match change p.recovered with
    | .ok source =>
      ([.taskEnded m (.panicked (.plain p)), .transformed origin p.recovered],
        [.task m.shownId source])
    | .error q =>
      ([.taskEnded m (.panicked (.plain p)), .transformed origin p.recovered, .crashed q], [])

/-- What the turn of a worker adds to its acts, and what it is to report after it. -/
theorem Turn.view {s : Pool} {l : Label} {phase : Phase} {e : Effect}
    (ht : Turn s w l phase e) (hw : s.workers[w]? = some phase) :
    s.news w l = e.acts ∧ (s.step l).owed w = e.phase.owed := by
  have he := ht.step_eq hw
  have howed : (s.step l).owed w = e.phase.owed := by
    rw [he, owed, phase_apply_self hw]
    rfl
  exact ⟨by simp [news, he], howed⟩

/-- A panic of the task applies the transform in force once, and its result is reported. -/
theorem panic_view {s : Pool} {m : Message} (hw : s.workers[w]? = some (.inTask m))
    (p : Payload) :
    (s.news w (.task w (.finish (.panicked (.plain p)))),
      (s.step (.task w (.finish (.panicked (.plain p))))).owed w) =
      transformed m p s.transformInForce := by
  cases hforce : s.transformInForce with
  -- one turn for each of the three things that can become of the error
  | none =>
    have hview := (Turn.taskPanicked (p := p) hforce).view hw
    rw [hview.1, hview.2]
    rfl
  | some chosen =>
    obtain ⟨origin, t⟩ := chosen
    cases hresult : t p.recovered with
    | ok source =>
      have hview := (Turn.taskRecovered hforce hresult).view hw
      rw [hview.1, hview.2]
      simp [transformed, hresult, effect, Phase.owed]
    | error q =>
      have hview := (Turn.taskLost hforce hresult).view hw
      rw [hview.1, hview.2]
      simp [transformed, hresult, effect, Phase.owed]

/-- Only a panic of the task calls a transform. -/
theorem transform_of_panic {s : Pool} {l : Label} {call : Origin × TaskError}
    (h : call ∈ (s.news w l).filterMap Act.transform?) :
    ∃ m p, l = .task w (.finish (.panicked (.plain p))) ∧
      s.workers[w]? = some (.inTask m) := by
  rcases news_view s l w with ⟨hnews, -⟩ | ⟨phase, e, hw, ht, -, hnews⟩
  · rw [hnews] at h
    cases h
  · rw [hnews] at h
    cases ht with
    | taskPanicked _ | taskRecovered _ _ | taskLost _ _ => exact ⟨_, _, rfl, hw⟩
    | start | call | logFailure | complete | leave | reportDropped _ =>
      simp only [spoken] at h
      split at h <;> cases h
    | _ => cases h

/-! ### Whole runs -/

/-- What a worker does along a run, each act with the transform that the calls made by then
    choose. -/
def choices (s : Pool) (w : Nat) (calls : List Transform) :
    List Label → List (Option (Origin × Change) × Act)
  | [] => []
  | l :: ls =>
    (s.news w l).map (Prod.mk (s.params.chosenAfter calls s.changed)) ++
      (s.step l).choices w (calls ++ l.transform?.toList) ls

/-- Along a run the transform in force is the one that the calls choose. -/
theorem trace_eq_choices {s : Pool} {calls : List Transform} (h : s.Chosen calls) (w : Nat)
    (labels : List Label) : s.trace w labels = s.choices w calls labels := by
  induction labels generalizing s calls with
  | nil => rfl
  | cons l ls ih =>
    have hnext : (s.step l).Chosen (calls ++ l.transform?.toList) := by
      have hrun := h.run [l]
      rwa [Label.transforms, filterMap_cons_eq, List.filterMap_nil, List.append_nil] at hrun
    rw [trace, choices, h.inForce, ih hnext]

/-! ### Calls that do not count -/

/-- A call after the first one changes nothing. -/
theorem step_setTransform {s : Pool} {calls : List Transform} (h : s.Chosen calls)
    (hcalls : calls ≠ []) (t : Transform) : s.step (.setTransform t) = s := by
  obtain ⟨first, rest, rfl⟩ := List.exists_cons_of_ne_nil hcalls
  have hset : s.processTransform = some first := h
  simp only [step, setTransform, hset, Option.some_or]
  rw [← hset]

/-- The pool without the transform of the process. -/
def unset (s : Pool) : Pool := { s with processTransform := none }

theorem unset_with (s : Pool) (t : Option Transform) :
    { s with processTransform := t }.unset = s.unset := rfl

theorem unset_eq {s t : Pool} (h : t.unset = s.unset) :
    t = { s with processTransform := t.processTransform } := by
  have hwith : { t.unset with processTransform := t.processTransform } =
      { s.unset with processTransform := t.processTransform } := by rw [h]
  exact hwith

/-- Labels of the outside do not look at the transform of the process. -/
theorem step_unset_outside (s : Pool) (t : Option Transform) {l : Label}
    (hl : l.actor? = none) (hset : l.setsTransform = false) :
    { s with processTransform := t }.step l = { s.step l with processTransform := t } := by
  cases l with
  | run _ | task _ _ | delete _ _ => cases hl
  | setTransform _ => cases hset
  | push _ | fireStop | advance _ | closeErrors | dropHandle => rfl
  | readError =>
    simp only [step, readError]
    split <;> rfl
  | dropErrors =>
    simp only [step, dropErrors]
    split <;> rfl
  | join =>
    simp only [step, beginJoin]
    split <;> rfl
  | shutdown =>
    simp only [step, shutdown, beginJoin, fireStop]
    split
    · split <;> rfl
    all_goals rfl

/-- In a pool with a transform of its own, nobody looks at the one of the process. -/
theorem step_unset {s : Pool} {own : Transform} (hown : s.params.transform = some own)
    (t : Option Transform) {l : Label} (hset : l.setsTransform = false) :
    { s with processTransform := t }.step l = { s.step l with processTransform := t } := by
  cases hl : l.actor? with
  | none => exact s.step_unset_outside t hl hset
  | some v =>
    -- the pool has its own transform, so the other one is never chosen
    have hforce : { s with processTransform := t }.transformInForce = s.transformInForce := by
      simp only [transformInForce, chosenTransform, hown]
    have halike : Alike s { s with processTransform := t } :=
      ⟨rfl, rfl, rfl, rfl, rfl, rfl, hforce, fun _ => rfl⟩
    rcases halike.same_step rfl hl with ⟨hstay, hstay'⟩ | ⟨e, he, he'⟩
    · rw [hstay, hstay']
    · rw [he, he']
      rfl

/-- Runs of two such pools that differ only in calls end in pools that differ at most in
    the transform of the process. -/
theorem run_unset {s t : Pool} {own : Transform} (hown : s.params.transform = some own)
    (hst : t.unset = s.unset) {ls ms : List Label}
    (h : ls.filter (!·.setsTransform) = ms.filter (!·.setsTransform)) :
    (t.run ms).unset = (s.run ls).unset := by
  have hrel := run_related Label.setsTransform
    (R := fun s t => s.params.transform = some own ∧ t.unset = s.unset)
    (fun {s t l} hl ⟨hown, hst⟩ => ?_) (fun {s t l} hl ⟨hown, hst⟩ => ?_)
    (fun {s t l} hl ⟨hown, hst⟩ => ?_) h ⟨hown, hst⟩
  · exact hrel.2
  · -- a call in the one run alone
    obtain ⟨f, rfl⟩ := Label.eq_of_setsTransform hl
    exact ⟨hown, hst⟩
  · obtain ⟨f, rfl⟩ := Label.eq_of_setsTransform hl
    exact ⟨hown, hst⟩
  · -- the same step in both
    have hstep : t.step l = { s.step l with processTransform := t.processTransform } := by
      rw [unset_eq hst]
      exact step_unset hown t.processTransform hl
    exact ⟨by rw [params_step]; exact hown, by rw [hstep, unset_with]⟩

end Pool

def Start.unset : Start → Start
  | .refused e => .refused e
  | .panicked payload orphans => .panicked payload (orphans.map Pool.unset)
  | .started pool => .started pool.unset

theorem Start.running?_unset (outcome : Start) :
    outcome.unset.running? = outcome.running?.map Pool.unset := by
  cases outcome <;> rfl

namespace Pool

theorem start_unset (params : PoolParams) (around : Surroundings) (t : Option Transform) :
    (start params { around with processTransform := t }).unset =
      (start params around).unset := by
  unfold start
  split
  · rfl
  · split
    · rfl
    · -- the logger gets the same line, so it panics on both or on none
      cases hp : ((spawned params around).write none
        (.poolStarted params.workerCount params.queue.url)).2 <;>
        simp_all [write, note, dropSender, Start.unset, unset, spawned]

/-! ### The guarantee -/

/-- What panics and returned errors come to in a pool for which calls were made. -/
structure AppliesFirst (calls : List Transform) (s : Pool) : Prop where
  /-- The transform in force is the pool's own, else that of the first call. -/
  inForce : s.transformInForce = s.params.chosenAfter calls s.changed
  /-- A panic of a task applies it once, and what it gives is what the worker has to
      report. -/
  panic : ∀ w m p, s.workers[w]? = some (.inTask m) →
    (s.news w (.task w (.finish (.panicked (.plain p)))),
      (s.step (.task w (.finish (.panicked (.plain p))))).owed w) =
      transformed m p (s.params.chosenAfter calls s.changed)
  /-- No error is recovered from a panic whose disposal panics, so nothing is applied to it
      and nothing reported. -/
  undisposed : ∀ w m q, s.workers[w]? = some (.inTask m) →
    s.news w (.task w (.finish (.panicked (.fragile q)))) =
      [.taskEnded m (.panicked (.fragile q)), .crashed q] ∧
    (s.step (.task w (.finish (.panicked (.fragile q))))).owed w = []
  /-- The error that a task returns is what the worker has to report, and no transform is
      applied. -/
  returned : ∀ w m source, s.workers[w]? = some (.inTask m) →
    s.news w (.task w (.finish (.failed source))) = [.taskEnded m (.failed source)] ∧
    (s.step (.task w (.finish (.failed source)))).owed w = [.task m.shownId source]
  /-- So is the error of a receive. -/
  received : ∀ w e fires rest, s.workers[w]? = some .receiving → s.stop = false →
    s.queue = ⟨.failed e, fires⟩ :: rest →
    s.news w (.run w) = [.received (.failed e)] ∧ (s.step (.run w)).owed w = [e]
  /-- Nothing else applies a transform. -/
  only : ∀ w l call, call ∈ (s.news w l).filterMap Act.transform? →
    ∃ m p, l = .task w (.finish (.panicked (.plain p))) ∧ s.workers[w]? = some (.inTask m)

/-- Of the calls before the start of a pool and after it, the first one counts. -/
structure FirstCounts (params : PoolParams) (around : Surroundings)
    (before : List Transform) (s : Pool) : Prop where
  /-- Whenever a task panics, the calls made by then choose the transform. -/
  applies : ∀ labels,
    AppliesFirst (before ++ Label.transforms labels) (s.run labels)
  /-- The choices show what the workers do. -/
  traced : ∀ labels w,
    (s.choices w before labels).map Prod.snd = (s.run labels).acts w
  /-- The chosen transform is called once on the error of each panic, and never else. -/
  transforms : ∀ labels w, ((s.run labels).acts w).filterMap Act.transform? =
    recoveries (s.choices w before labels)
  /-- The reports are the failures, those of panics as the chosen transform makes them. -/
  reports : ∀ labels w, ((s.run labels).acts w).filterMap Act.report? ++
    (s.run labels).owed w = failures (s.choices w before labels)
  /-- Without a call after the first one the run is the same. -/
  later : ∀ pre t post, before ++ Label.transforms pre ≠ [] →
    s.run (pre ++ .setTransform t :: post) = s.run (pre ++ post)
  /-- So it is without such a call before the start. -/
  earlier : ∀ calls t rest, before = calls ++ t :: rest → calls ≠ [] →
    start params (around.setTransforms (calls ++ rest)) =
      start params (around.setTransforms before)
  /-- A pool with a transform of its own starts in the same way whatever calls are made
      before the start. -/
  ownStart : params.transform ≠ none → ∀ calls,
    (start params (around.setTransforms calls)).unset =
      (start params (around.setTransforms before)).unset
  /-- Whatever calls are made after it too, the run is the same but for the transform of
      the process. -/
  ownRun : params.transform ≠ none → ∀ calls t,
    (start params (around.setTransforms calls)).running? = some t → ∀ ls ms,
    ls.filter (!·.setsTransform) = ms.filter (!·.setsTransform) →
    (t.run ms).unset = (s.run ls).unset

theorem Chosen.appliesFirst {s : Pool} {calls : List Transform} (h : s.Chosen calls) :
    AppliesFirst calls s := by
  constructor
  case inForce => exact h.inForce
  case panic =>
    intro w m p hw
    rw [← h.inForce]
    exact panic_view hw p
  case undisposed => exact fun w m q hw => Turn.disposalPanicked.view hw
  case returned =>
    intro w m source hw
    have ht : Turn s w (.task w (.finish (.failed source))) (.inTask m) _ := .taskFailed
    exact ht.view hw
  case received =>
    intro w e fires rest hw hstop hq
    exact (Turn.receiveFailed hstop hq).view hw
  case only => exact fun w l call hmem => transform_of_panic hmem

/-- **The first call counts.** In a process in which no transform was set, whatever calls
    are made before the start of a pool and while it runs, each panic is changed by the
    pool's own transform, else by that of the first call if it was made by then. -/
theorem run_firstCounts {params : PoolParams} {around : Surroundings}
    {before : List Transform} {s : Pool} (hfresh : around.processTransform = none)
    (hs : (start params (around.setTransforms before)).running? = some s) :
    FirstCounts params around before s := by
  have hl := launched_of_running hs
  have hchosen := hl.chosen hfresh
  have htraced (labels : List Label) (w : Nat) :
      (s.choices w before labels).map Prod.snd = (s.run labels).acts w := by
    rw [← trace_eq_choices hchosen, acts_run, hl.acts_eq_nil, List.nil_append]
  -- the calls before a start do not show in it but for the transform of the process
  have hstart (calls : List Transform) :
      (start params (around.setTransforms calls)).unset = (start params around).unset := by
    rw [Surroundings.setTransforms_eq]
    exact start_unset params around _
  constructor
  case applies => exact fun labels => (hchosen.run labels).appliesFirst
  case traced => exact htraced
  case transforms =>
    intro labels w
    rw [← htraced, ← trace_eq_choices hchosen, transforms_run]
  case reports =>
    intro labels w
    have howed : s.owed w = [] := by
      cases hw : s.workers[w]? with
      | none => simp [owed, hw]
      | some phase => simp [owed, hw, hl.phase hw, Phase.owed]
    rw [← htraced, ← trace_eq_choices hchosen, ← reports_run, howed, List.nil_append]
  case later =>
    intro pre t post hcalls
    have hsame := step_setTransform (hchosen.run pre) hcalls t
    rw [run_append, run_cons, hsame, ← run_append]
  case earlier =>
    intro calls t rest hbefore hcalls
    have hhead : (calls ++ rest).head? = before.head? := by
      rw [hbefore]
      cases calls with
      | nil => exact absurd rfl hcalls
      | cons first others => rfl
    rw [Surroundings.setTransforms_eq, Surroundings.setTransforms_eq, hhead]
  case ownStart =>
    intro _ calls
    rw [hstart, hstart]
  case ownRun =>
    intro hown calls t ht ls ms hsame
    obtain ⟨own, hown⟩ := Option.ne_none_iff_exists'.mp hown
    have hunset : t.unset = s.unset := by
      have hrunning := congrArg Start.running? ((hstart calls).trans (hstart before).symm)
      rw [Start.running?_unset, Start.running?_unset, ht, hs] at hrunning
      exact Option.some.inj hrunning
    have hparams : s.params.transform = some own := by rw [hl.params_eq, hown]
    exact run_unset hparams hunset hsame

def tag (text : String) : Transform := .always fun e => .ok (.pool (.task text e))

/-- The first worker receives a message; while its task runs two calls are made, and the
    task panics. -/
def panicAfterCalls : List Label :=
  [.run 0, .run 0, .run 0, .run 0, .setTransform (tag "first"), .setTransform (tag "later"),
    .task 0 (.finish (.panicked (.plain (.text "boom")))), .run 0]

def oneMessage : List Response := [⟨.messages [default], false⟩]

/-- Two workers with a transform of their own. -/
def ownParams : PoolParams := { PoolParams.pair with transform := some (tag "own") }

/-- The pool of two such workers that a start leaves after a call. -/
def ownPair : Pool :=
  { pair oneMessage with params := ownParams, processTransform := some (tag "before") }

/-- The first call counts, also if it is made while the task runs, and none of them for a
    pool with a transform of its own. -/
theorem run_firstCounts_pair :
    (start .pair { queue := oneMessage }).running? = some (pair oneMessage) ∧
    FirstCounts .pair { queue := oneMessage } [] (pair oneMessage) ∧
    ((pair oneMessage).run panicAfterCalls).channel.unread =
      [.task "" (.pool (.task "first" (.panicked "boom")))] ∧
    (start ownParams
      (({ queue := oneMessage } : Surroundings).setTransforms [tag "before"])).running? =
        some ownPair ∧
    FirstCounts ownParams { queue := oneMessage } [tag "before"] ownPair ∧
    (ownPair.run panicAfterCalls).channel.unread =
      [.task "" (.pool (.task "own" (.panicked "boom")))] := by
  have hown : (start ownParams
      (({ queue := oneMessage } : Surroundings).setTransforms [tag "before"])).running? =
        some ownPair := rfl
  exact ⟨rfl, run_firstCounts rfl (pair_running oneMessage), by decide, hown,
    run_firstCounts rfl hown, by decide⟩

end Pool

end ConsumerPool
