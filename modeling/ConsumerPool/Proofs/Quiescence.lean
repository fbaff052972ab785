import ConsumerPool.Proofs.Delivery
import ConsumerPool.Scenario.Measure
import Mathlib.Data.Finset.Lattice.Fold
import Mathlib.Data.List.Induction

/-! # Workers Never Spin

  The loop of a worker has no bound of its own, and with a delay of zero it pauses
  without waiting. But each time around it a worker pays with one response, so
  between two events of the outside the workers take finitely many steps, in any
  order, and then every one of them has ended or waits. -/

namespace ConsumerPool

variable {w : Nat}

/-! ### Around the loop -/

namespace Phase

/-- Whether a worker has taken a response since it was at the top of the loop. -/
def inHand : Phase → Bool
  | .holding _ | .inTask _ | .reporting _ _ | .deleting _ | .deleteFailed _ _
  | .finishing _ | .idling | .yielding | .pausing _ => true
  | .spawned | .polling | .receiving | .leaving | .stopped | .crashed _ => false

/-- Whether a worker is out of the loop. -/
def leftLoop : Phase → Bool
  | .leaving | .stopped | .crashed _ => true
  | .spawned | .polling | .receiving | .holding _ | .inTask _ | .reporting _ _
  | .deleting _ | .deleteFailed _ _ | .finishing _ | .idling | .yielding
  | .pausing _ => false

/-- Whether a worker that moves on comes back to the top of the loop. -/
def returns (old new : Phase) : Bool :=
  decide (new = .polling ∧ old ≠ .polling ∧ old ≠ .spawned)

theorem returns_self (phase : Phase) : phase.returns phase = false := by
  rw [returns, decide_eq_false_iff_not]
  rintro ⟨heq, hne, -⟩
  exact hne heq

/-- What a worker that moves on pays with the responses that it takes. -/
structure Lap (old new : Phase) (took : Nat) : Prop where
  /-- Out of the loop it takes none and stays there. -/
  out : old.leftLoop = true → took = 0 ∧ new.leftLoop = true ∧ old.returns new = false
  /-- If it comes back to the top of the loop, it takes one or has one in hand. -/
  atLeast : (old.returns new).toNat ≤ took + old.inHand.toNat
  /-- It never has more than one. -/
  atMost : took + old.inHand.toNat ≤ (old.returns new).toNat + 1
  /-- As long as it stays in the loop, nothing is lost. -/
  exact : old.leftLoop = false → new.leftLoop = false →
    took + old.inHand.toNat = (old.returns new).toNat + new.inHand.toNat

theorem lap_self (phase : Phase) : phase.Lap phase 0 := by
  constructor <;> simp [returns_self, Bool.toNat_le]

theorem of_inHand {phase : Phase} (h : phase.inHand = true) :
    phase.leftLoop = false ∧ phase ≠ .polling ∧ phase ≠ .spawned := by
  cases phase <;> simp_all [inHand, leftLoop]

theorem returns_of_ne {old new : Phase} (h : new ≠ .polling) :
    old.returns new = false := by
  rw [returns, decide_eq_false_iff_not]
  exact fun hreturns => h hreturns.1

namespace Lap

variable {old new : Phase}

theorem approach (hin : old.leftLoop = false) (hold : old.inHand = false)
    (hnew : new.inHand = false) (hback : old.returns new = false) : Lap old new 0 := by
  constructor <;> simp [hold, hnew, hin, hback]

theorem keep (hold : old.inHand = true) (hnew : new.inHand = true) : Lap old new 0 := by
  obtain ⟨hin, -, -⟩ := of_inHand hold
  obtain ⟨-, hne, -⟩ := of_inHand hnew
  have hback : old.returns new = false := returns_of_ne hne
  constructor <;> simp [hold, hnew, hin, hback]

theorem back (hold : old.inHand = true) : Lap old .polling 0 := by
  obtain ⟨hin, hpolling, hspawned⟩ := of_inHand hold
  have hback : old.returns .polling = true := by simp [returns, hpolling, hspawned]
  have hnew : Phase.polling.inHand = false := rfl
  constructor <;> simp [hold, hnew, hin, hback]

theorem take (hnew : new.inHand = true) : Lap .receiving new 1 := by
  obtain ⟨-, hne, -⟩ := of_inHand hnew
  have hback : Phase.receiving.returns new = false := returns_of_ne hne
  have hold : Phase.receiving.inHand = false := rfl
  have hin : Phase.receiving.leftLoop = false := rfl
  constructor <;> simp [hold, hnew, hin, hback]

theorem leave {took : Nat} (hnew : new.leftLoop = true)
    (hmost : took + old.inHand.toNat ≤ 1) (hout : old.leftLoop = true → took = 0) :
    Lap old new took := by
  have hne : new ≠ .polling := by
    rintro rfl
    cases hnew
  have hback : old.returns new = false := returns_of_ne hne
  constructor
  case out => exact fun h => ⟨hout h, hnew, hback⟩
  case exact =>
    intro _ hin
    rw [hnew] at hin
    cases hin
  all_goals simp [hback, hmost]

end Lap

end Phase

namespace Pool

def takes (s : Pool) (w : Nat) : Nat := ((s.acts w).filterMap Act.received?).length

/-- Whether a worker comes back to the top of the loop in a step. -/
def returns (s : Pool) (w : Nat) (l : Label) : Bool :=
  match s.workers[w]?, (s.step l).workers[w]? with
  | some old, some new => old.returns new
  | _, _ => false

def laps (s : Pool) (w : Nat) : List Label → Nat
  | [] => 0
  | l :: ls => (s.returns w l).toNat + (s.step l).laps w ls

theorem laps_concat (s : Pool) (w : Nat) (ls : List Label) (l : Label) :
    s.laps w (ls ++ [l]) = s.laps w ls + ((s.run ls).returns w l).toNat := by
  induction ls generalizing s with
  | nil => simp [laps]
  | cons x xs ih => rw [List.cons_append, laps, laps, ih, run_cons, Nat.add_assoc]

/-- What a turn takes from the client pays for the way that it leads around the loop. -/
theorem Turn.lap {s : Pool} {l : Label} {phase : Phase} {e : Effect}
    (ht : Turn s w l phase e) :
    phase.Lap e.phase (e.acts.filterMap Act.received?).length := by
  -- a worker leaves the loop when it sees the stop signal or foreign code panics
  have hleave {old new : Phase} {took : Nat} (hnew : new.leftLoop = true)
      (hmost : took + old.inHand.toNat ≤ 1) (hin : old.leftLoop = false) :
      old.Lap new took :=
    .leave hnew hmost fun hout => by
      rw [hin] at hout
      cases hout
  cases ht with
  | wait _ | noTask _ | noDelete _ | taskStop | deleteStop => exact Phase.lap_self _
  | start =>
    simp only [spoken]
    split
    · exact .approach rfl rfl rfl rfl
    · exact hleave rfl (Nat.zero_le 1) rfl
  | pollBegin _ => exact .approach rfl rfl rfl rfl
  | deliver _ _ | deliverNone _ _ | receiveFailed _ _ => exact .take rfl
  | call | logFailure =>
    simp only [spoken]
    split
    · exact .keep rfl rfl
    · exact hleave rfl (Nat.le_refl 1) rfl
  | complete =>
    simp only [spoken]
    split
    · exact .back rfl
    · exact hleave rfl (Nat.le_refl 1) rfl
  | @reportTaken _ after _ =>
    cases after with
    | poll => exact .back rfl
    | idle => exact .keep rfl rfl
  | @reportDropped _ after _ =>
    simp only [spoken]
    split
    · cases after with
      | poll => exact .back rfl
      | idle => exact .keep rfl rfl
    · exact hleave rfl (Nat.le_refl 1) rfl
  | yield _ | pauseBegin _ _ | taskOk | taskFailed | taskPanicked _ | taskRecovered _ _
  | deleteOk | deleteFailed => exact .keep rfl rfl
  | yieldOver _ | pauseOver _ _ => exact .back rfl
  | pollStopped _ | abandon _ => exact hleave rfl (Nat.zero_le 1) rfl
  | receivePanicked _ _ | idleStopped _ _ | yieldStopped _ | pauseStopped _
  | taskLost _ _ | disposalPanicked | deletePanicked => exact hleave rfl (Nat.le_refl 1) rfl
  | leave =>
    simp only [spoken]
    split
    · exact .leave rfl (Nat.zero_le 1) fun _ => rfl
    · exact .leave rfl (Nat.zero_le 1) fun _ => rfl

/-- What a worker takes in a step pays for the way that it goes around the loop. -/
theorem step_lap {s : Pool} {old : Phase} (h : s.workers[w]? = some old) (l : Label) :
    ∃ new took, (s.step l).workers[w]? = some new ∧ old.Lap new took ∧
      (s.step l).takes w = s.takes w + took ∧ s.returns w l = old.returns new := by
  have htakes : (s.step l).takes w =
      s.takes w + ((s.news w l).filterMap Act.received?).length := by
    rw [takes, takes, acts_step, List.filterMap_append, List.length_append]
  rcases s.news_view l w with ⟨hnews, hsame⟩ | ⟨phase, e, hp, ht, hnew, hnews⟩
  · rw [h] at hsame
    rw [hnews] at htakes
    exact ⟨old, 0, hsame, old.lap_self, htakes, by simp only [returns, h, hsame]⟩
  · obtain rfl : phase = old := Option.some.inj (hp.symm.trans h)
    rw [hnews] at htakes
    exact ⟨e.phase, _, hnew, ht.lap, htakes, by simp only [returns, hp, hnew]⟩

/-- A worker pays with one response for each time around the loop. What it has in hand
    is paid for the time it is on; the time on which it leaves costs one at most. -/
structure Pays (s : Pool) (w : Nat) (labels : List Label) (old new : Phase) : Prop where
  atLeast : s.takes w + s.laps w labels ≤ (s.run labels).takes w + old.inHand.toNat
  atMost : (s.run labels).takes w + old.inHand.toNat ≤ s.takes w + s.laps w labels + 1
  exact : new.leftLoop = false → (s.run labels).takes w + old.inHand.toNat =
    s.takes w + s.laps w labels + new.inHand.toNat

theorem Pays.concat {s : Pool} {ls : List Label} {l : Label} {old mid new : Phase}
    {took : Nat} (h : s.Pays w ls old mid) (hlap : mid.Lap new took)
    (htakes : ((s.run ls).step l).takes w = (s.run ls).takes w + took)
    (hreturns : (s.run ls).returns w l = mid.returns new) :
    s.Pays w (ls ++ [l]) old new := by
  have hrun : s.run (ls ++ [l]) = (s.run ls).step l := run_append s ls [l]
  have hlaps := s.laps_concat w ls l
  have hleast := h.atLeast
  have hmost := h.atMost
  -- out of the loop no step counts; in it the step adds to an exact sum
  cases hmid : mid.leftLoop with
  | true =>
    obtain ⟨rfl, hout, hback⟩ := hlap.out hmid
    have hnone : (mid.returns new).toNat = 0 := by rw [hback]; rfl
    constructor
    case exact =>
      intro hin
      rw [hout] at hin
      cases hin
    all_goals
      rw [hrun, htakes, hlaps, hreturns]
      omega
  | false =>
    have hexact := h.exact hmid
    have hge := hlap.atLeast
    have hle := hlap.atMost
    constructor
    case exact =>
      intro hin
      have heq := hlap.exact hmid hin
      rw [hrun, htakes, hlaps, hreturns]
      omega
    all_goals
      rw [hrun, htakes, hlaps, hreturns]
      omega

/-- In every run from every state, a worker pays for each time around the loop. -/
theorem run_pays {s : Pool} {old : Phase} (h : s.workers[w]? = some old)
    (labels : List Label) :
    ∃ new, (s.run labels).workers[w]? = some new ∧ s.Pays w labels old new := by
  -- from the back, since only a worker that is in the loop has an exact sum
  induction labels using List.reverseRecOn with
  | nil =>
    refine ⟨old, h, ?_⟩
    constructor <;> simp [laps, Bool.toNat_le]
  | append_singleton ls l ih =>
    obtain ⟨mid, hmid, hpays⟩ := ih
    obtain ⟨new, took, hnew, hlap, htakes, hreturns⟩ := step_lap hmid l
    refine ⟨new, ?_, hpays.concat hlap htakes hreturns⟩
    rw [run_append]
    exact hnew

end Pool

/-! ### Waiting workers -/

namespace Scenario

/-- Whether a job is the one that a worker in a phase has. -/
def Job.serves : Job → Phase → Bool
  | .task _, .inTask _ | .delete _, .deleting _ => true
  | _, .inTask _ | _, .deleting _ => false
  | _, _ => true

/-- The job of a worker in a phase, if it goes on by these scripts. -/
def Job.ofPhase (task : Progress TaskError Thrown) (delete : Progress PoolError) : Phase → Job
  | .inTask _ => .task task
  | .deleting _ => .delete delete
  | _ => .none

namespace Scripted

variable {c t : Scripted}

/-- Whether every call that runs has a script. -/
structure Attended (c : Scripted) : Prop where
  length_eq : c.jobs.length = c.pool.workers.length
  serves : ∀ (v : Nat) (phase : Phase) (job : Job), c.pool.workers[v]? = some phase →
    c.jobs[v]? = some job → job.serves phase = true

theorem Attended.job (h : c.Attended) {phase : Phase}
    (hw : c.pool.workers[w]? = some phase) :
    ∃ job, c.jobs[w]? = some job ∧ job.serves phase = true := by
  have hlt : w < c.jobs.length := h.length_eq ▸ (List.getElem?_eq_some_iff.mp hw).1
  have hjob : c.jobs[w]? = some c.jobs[w] := List.getElem?_eq_getElem hlt
  exact ⟨_, hjob, h.serves w phase _ hw hjob⟩

theorem Attended.task (h : c.Attended) {m : Message}
    (hw : c.pool.workers[w]? = some (.inTask m)) : ∃ p, c.jobs[w]? = some (.task p) := by
  obtain ⟨job, hjob, hserves⟩ := h.job hw
  cases job with
  | task p => exact ⟨p, hjob⟩
  | none | delete _ => cases hserves

theorem Attended.delete (h : c.Attended) {m : Message}
    (hw : c.pool.workers[w]? = some (.deleting m)) :
    ∃ p, c.jobs[w]? = some (.delete p) := by
  obtain ⟨job, hjob, hserves⟩ := h.job hw
  cases job with
  | delete p => exact ⟨p, hjob⟩
  | none | task _ => cases hserves

/-- What a worker waits for that can take no step. -/
inductive Waits (c : Scripted) (w : Nat) : Prop where
  | ended {phase} : c.pool.workers[w]? = some phase → phase.ended = true → Waits c w
  | receiving : c.pool.workers[w]? = some .receiving → c.pool.queue = [] →
      c.pool.stop = false → Waits c w
  | pausing {deadline} : c.pool.workers[w]? = some (.pausing deadline) →
      c.pool.stop = false → c.pool.clock < deadline → Waits c w
  /-- The task, which is blocked or asleep. -/
  | inTask {m p} : c.pool.workers[w]? = some (.inTask m) → c.jobs[w]? = some (.task p) →
      p.next c.pool.timer c.pool.clock = .wait → Waits c w
  /-- The delete, which is blocked or asleep. -/
  | deleting {m p} : c.pool.workers[w]? = some (.deleting m) →
      c.jobs[w]? = some (.delete p) → p.next c.pool.timer c.pool.clock = .wait → Waits c w

/-- A pool in any state, with scripts by which the calls that run go on. -/
def resume (pool : Pool) (workload : Workload) (tasks : Nat → Progress TaskError Thrown)
    (deletes : Nat → Progress PoolError) : Scripted :=
  { pool, workload, jobs := pool.workers.mapIdx fun w => Job.ofPhase (tasks w) (deletes w) }

theorem attended_resume (pool : Pool) (workload : Workload)
    (tasks : Nat → Progress TaskError Thrown) (deletes : Nat → Progress PoolError) :
    (resume pool workload tasks deletes).Attended where
  length_eq := List.length_mapIdx
  serves := by
    intro v phase job hv hjob
    have hworker : pool.workers[v]? = some phase := hv
    simp only [resume, List.getElem?_mapIdx, hworker, Option.map_some,
      Option.some.injEq] at hjob
    subst hjob
    cases phase <;> rfl

/-- A worker that can take no step has ended or waits. -/
theorem Attended.waits (h : c.Attended) (hw : w < c.pool.workers.length)
    (hstuck : c.step? w = none) : c.Waits w := by
  obtain ⟨phase, hphase⟩ : ∃ phase, c.pool.workers[w]? = some phase :=
    ⟨_, List.getElem?_eq_getElem hw⟩
  -- outside foreign code, no step is due
  have hrun (ht : ∀ m, phase ≠ .inTask m) (hd : ∀ m, phase ≠ .deleting m) :
      c.pool.canRun w = false := by
    cases hcan : c.pool.canRun w with
    | false => rfl
    | true => cases phase <;> simp_all [step?]
  cases phase with
  | inTask m =>
    obtain ⟨p, hp⟩ := h.task hphase
    refine .inTask hphase hp ?_
    simp only [step?, hphase, hp, stepTask?] at hstuck
    split at hstuck
    · assumption
    all_goals cases hstuck
  | deleting m =>
    obtain ⟨p, hp⟩ := h.delete hphase
    refine .deleting hphase hp ?_
    simp only [step?, hphase, hp, stepDelete?] at hstuck
    split at hstuck
    · assumption
    all_goals cases hstuck
  | stopped | crashed _ => exact .ended hphase rfl
  | receiving =>
    have hcan := hrun (by simp) (by simp)
    simp only [Pool.canRun, hphase, Bool.or_eq_false_iff, Bool.not_eq_false',
      List.isEmpty_iff] at hcan
    exact .receiving hphase hcan.2 hcan.1
  | pausing d =>
    have hcan := hrun (by simp) (by simp)
    simp only [Pool.canRun, hphase, Bool.or_eq_false_iff, decide_eq_false_iff_not,
      Nat.not_le] at hcan
    exact .pausing hphase hcan.1 hcan.2
  | spawned | polling | holding _ | reporting _ _ | deleteFailed _ _ | finishing _
  | idling | yielding | leaving =>
    have hcan := hrun (by simp) (by simp)
    simp [Pool.canRun, hphase] at hcan

/-! ### Turns of scripted pools -/

/-- What a step of a worker can be. -/
inductive Moved (c : Scripted) (w : Nat) : Scripted → Prop where
  | task {p q} : c.jobs[w]? = some (.task p) → Moved c w (c.keep w (.task q))
  | taskStop {p q} : c.jobs[w]? = some (.task p) →
      Moved c w { c.keep w (.task q) with pool := c.pool.step (.task w .fireStop) }
  | delete {p q} : c.jobs[w]? = some (.delete p) → Moved c w (c.keep w (.delete q))
  | deleteStop {p q} : c.jobs[w]? = some (.delete p) →
      Moved c w { c.keep w (.delete q) with pool := c.pool.step (.delete w .fireStop) }
  /-- It takes a step of the pool after which foreign code may begin. -/
  | take {l} : l.actor? = some w → Moved c w (c.take w l)

theorem step?_moved (h : c.step? w = some t) : c.Moved w t := by
  unfold step? at h
  split at h
  · next hjob =>
    unfold stepTask? at h
    split at h <;> cases h
    · exact .task hjob
    · exact .taskStop hjob
    · exact .take rfl
  · next hjob =>
    unfold stepDelete? at h
    split at h <;> cases h
    · exact .delete hjob
    · exact .deleteStop hjob
    · exact .take rfl
  · split at h <;> cases h
    exact .take rfl

/-- A step of a worker is one of the pool under labels of this worker. -/
theorem Moved.run (h : c.Moved w t) :
    ∃ labels, t.pool = c.pool.run labels ∧ ∀ l ∈ labels, l.actor? = some w := by
  cases h with
  | task _ | delete _ => exact ⟨[], rfl, by simp⟩
  | taskStop _ => exact ⟨[.task w .fireStop], rfl, by simp [Label.actor?]⟩
  | deleteStop _ => exact ⟨[.delete w .fireStop], rfl, by simp [Label.actor?]⟩
  | @take l hl => exact ⟨[l], rfl, by simpa using hl⟩

theorem jobs_set {jobs : List Job} {new job : Job} {v : Nat}
    (h : (jobs.set w new)[v]? = some job) :
    w = v ∧ job = new ∨ w ≠ v ∧ jobs[v]? = some job := by
  rw [List.getElem?_set] at h
  split at h
  · split at h <;> simp_all
  · exact .inr ⟨‹_›, h⟩

theorem Attended.keep (h : c.Attended) {pool : Pool} {old new : Job}
    (hpool : pool.workers = c.pool.workers) (hold : c.jobs[w]? = some old)
    (hkind : ∀ phase, old.serves phase = true → new.serves phase = true) :
    Attended { c.keep w new with pool } where
  length_eq := by simpa [Scripted.keep, hpool] using h.length_eq
  serves := by
    intro v phase job hv hjob
    have hphase : c.pool.workers[v]? = some phase := hpool ▸ hv
    rcases jobs_set hjob with ⟨rfl, rfl⟩ | ⟨-, hjob⟩
    · exact hkind phase (h.serves _ phase old hphase hold)
    · exact h.serves v phase job hphase hjob

/-- The foreign code that begins serves the call that begins. -/
theorem serves_jobBegun (c : Scripted) {pool : Pool} {phase : Phase}
    (h : pool.workers[w]? = some phase) : (c.jobBegun pool w).serves phase = true := by
  unfold jobBegun
  rw [h]
  cases phase <;> rfl

/-- After a step of the pool each call that runs has a script. -/
theorem Attended.take (h : c.Attended) {l : Label} (hl : l.actor? = some w) :
    (c.take w l).Attended where
  length_eq := by simpa [Scripted.take] using h.length_eq
  serves := by
    intro v phase job hv hjob
    rcases jobs_set hjob with ⟨rfl, rfl⟩ | ⟨hne, hjob⟩
    · exact serves_jobBegun c hv
    · -- the step has moved nobody else
      have hsame : (c.pool.step l).workers[v]? = c.pool.workers[v]? := by
        rcases c.pool.step_of_actor hl with heq | ⟨_, e, -, -, heq⟩
        · rw [heq]
        · rw [heq, Pool.phase_apply_ne hne]
      exact h.serves v phase job (hsame ▸ hv) hjob

theorem Attended.moved (h : c.Attended) (hm : c.Moved w t) : t.Attended := by
  have htask {p q : Progress TaskError Thrown} (phase : Phase) :
      (Job.task p).serves phase = true → (Job.task q).serves phase = true := by
    cases phase <;> exact id
  have hdelete {p q : Progress PoolError} (phase : Phase) :
      (Job.delete p).serves phase = true → (Job.delete q).serves phase = true := by
    cases phase <;> exact id
  cases hm with
  | task hjob => exact h.keep rfl hjob htask
  | taskStop hjob => exact h.keep (stopFromTask_keeps c.pool w).2 hjob htask
  | delete hjob => exact h.keep rfl hjob hdelete
  | deleteStop hjob => exact h.keep (stopFromDelete_keeps c.pool w).2 hjob hdelete
  | take hl => exact h.take hl

/-- The state after turns of these workers, if each of them can take its turn. -/
def turns? (c : Scripted) : List Nat → Option Scripted
  | [] => some c
  | w :: ws => (c.step? w).bind fun c' => c'.turns? ws

theorem Attended.turns (h : c.Attended) {ws : List Nat} (ht : c.turns? ws = some t) :
    t.Attended := by
  induction ws generalizing c with
  | nil =>
    cases ht
    exact h
  | cons w ws ih =>
    obtain ⟨c', hstep, hrest⟩ := Option.bind_eq_some_iff.mp ht
    exact ih (h.moved (step?_moved hstep)) hrest

/-- Turns of workers bring nothing from the outside. -/
theorem turns?_run {ws : List Nat} (h : c.turns? ws = some t) :
    ∃ labels, t.pool = c.pool.run labels ∧ labels.flatMap Label.pushed = [] := by
  induction ws generalizing c with
  | nil =>
    cases h
    exact ⟨[], rfl, rfl⟩
  | cons w ws ih =>
    obtain ⟨c', hstep, hrest⟩ := Option.bind_eq_some_iff.mp h
    obtain ⟨first, hfirst, hactor⟩ := (step?_moved hstep).run
    obtain ⟨rest, hpool, hpushed⟩ := ih hrest
    refine ⟨first ++ rest, by rw [hpool, hfirst, Pool.run_append], ?_⟩
    rw [List.flatMap_append, hpushed, List.append_nil, List.flatMap_eq_nil_iff]
    exact fun l hl => Pool.pushed_eq_nil (hactor l hl)

/-- A worker that the pool does not have takes no step. -/
theorem step?_absent (hw : c.pool.workers.length ≤ w) : c.step? w = none := by
  have hnone : c.pool.workers[w]? = none := List.getElem?_eq_none hw
  simp [step?, Pool.canRun, hnone]

/-- **The work left bounds all turns.** From every state there is a bound on how many
    turns can be taken, in any order of the workers. -/
theorem turns?_bounded (c : Scripted) :
    ∃ n, ∀ ws t, c.turns? ws = some t → ws.length ≤ n := by
  -- the first turn leaves less work, and there are only so many workers to take it
  have hfirst (v : Nat) :
      ∃ n, ∀ c', c.step? v = some c' → ∀ ws t, c'.turns? ws = some t → ws.length ≤ n := by
    cases hv : c.step? v with
    | none => exact ⟨0, fun c' hc' => by cases hc'⟩
    | some c' =>
      obtain ⟨n, hn⟩ := turns?_bounded c'
      refine ⟨n, fun c'' hc'' => ?_⟩
      cases hc''
      exact hn
  choose bound hbound using hfirst
  refine ⟨(Finset.range c.pool.workers.length).sup bound + 1, fun ws t ht => ?_⟩
  cases ws with
  | nil => exact Nat.zero_le _
  | cons v ws =>
    obtain ⟨c', hstep, hrest⟩ := Option.bind_eq_some_iff.mp ht
    have hv : v < c.pool.workers.length := by
      by_contra hge
      rw [step?_absent (Nat.le_of_not_lt hge)] at hstep
      cases hstep
    have hlength : ws.length ≤ bound v := hbound v c' hstep ws t hrest
    exact Nat.succ_le_succ (hlength.trans (Finset.le_sup (Finset.mem_range.mpr hv)))
termination_by c.work
decreasing_by exact step?_less hv

/-- From every state there are turns after which no worker can take another. -/
theorem exists_turns?_stuck (c : Scripted) :
    ∃ ws t, c.turns? ws = some t ∧ ∀ w, t.step? w = none := by
  by_cases hmove : ∃ w c', c.step? w = some c'
  · obtain ⟨w, c', hstep⟩ := hmove
    obtain ⟨ws, t, ht, hstuck⟩ := exists_turns?_stuck c'
    exact ⟨w :: ws, t, by rw [turns?, hstep]; exact ht, hstuck⟩
  · refine ⟨[], c, rfl, fun w => ?_⟩
    cases hw : c.step? w with
    | none => rfl
    | some c' => exact absurd ⟨w, c', hw⟩ hmove
termination_by c.work
decreasing_by exact step?_less (by assumption)

/-! ### What comes between two events of the outside -/

/-- Without an event of the outside and with the clock at rest, the workers of a pool
    come to a halt. -/
structure NeverSpins (c : Scripted) : Prop where
  /-- Only so many turns can be taken, in any order of the workers. -/
  bounded : ∃ n, ∀ ws t, c.turns? ws = some t → ws.length ≤ n
  /-- Whatever turns are taken, others lead on to a state in which none can be. -/
  settles : ∀ ws t, c.turns? ws = some t →
    ∃ ws' t', t.turns? ws' = some t' ∧ ∀ w, t'.step? w = none
  /-- Then each worker has ended, or it waits for a response that is not there, for the
      end of its pause, or for its task or its delete. -/
  waits : ∀ ws t, c.turns? ws = some t → (∀ w, t.step? w = none) →
    ∀ w < c.pool.params.workerCount, t.Waits w
  /-- The receives that are completed take the responses that the client held, in order,
      so they are no more than these. -/
  receives : ∀ ws t, c.turns? ws = some t → ∃ taken,
    c.pool.queue = taken ++ t.pool.queue ∧
      t.pool.handedOver = c.pool.handedOver ++ taken.map Response.received
  /-- A worker that goes around the loop takes one response each time. -/
  pays : ∀ w labels old, c.pool.workers[w]? = some old →
    ∃ new, (c.pool.run labels).workers[w]? = some new ∧ c.pool.Pays w labels old new

/-- **The workers never spin.** In every state that a started pool can come to, with any
    scripts for the calls that run and those to come, and with any delay after a poll
    without a message, the workers come to a halt. -/
theorem neverSpins {params : PoolParams} {around : Surroundings} {s : Pool}
    (hs : (Pool.start params around).running? = some s) (labels : List Label)
    (workload : Workload) (tasks : Nat → Progress TaskError Thrown)
    (deletes : Nat → Progress PoolError) :
    NeverSpins (resume (s.run labels) workload tasks deletes) where
  bounded := turns?_bounded _
  settles := fun _ t _ => exists_turns?_stuck t
  waits := by
    intro ws t ht hstuck w hw
    have hl := Pool.launched_of_running hs
    have hlength : t.pool.workers.length = params.workerCount := by
      obtain ⟨ls, hpool, -⟩ := turns?_run ht
      rw [hpool, Pool.length_workers_run]
      exact (Pool.length_workers_run s labels).trans hl.length_workers
    have hparams : (s.run labels).params = params := by rw [Pool.params_run, hl.params_eq]
    have hcount : w < params.workerCount := hparams ▸ hw
    exact ((attended_resume _ _ _ _).turns ht).waits (hlength ▸ hcount) (hstuck w)
  receives := by
    intro ws t ht
    obtain ⟨ls, hpool, hpushed⟩ := turns?_run ht
    obtain ⟨taken, hq, hover⟩ := (s.run labels).run_takes ls
    rw [hpushed, List.append_nil] at hq
    exact ⟨taken, by rw [hpool]; exact hq, by rw [hpool]; exact hover⟩
  pays := fun _ ls _ h => Pool.run_pays h ls

def threeResponses : List Response :=
  [⟨.messages [⟨some "1", some "h", none⟩], false⟩, ⟨.messages [], false⟩,
    ⟨.failed (.receive "late"), false⟩]

/-- One worker is in its task, which gives way once and sleeps then. The other one gets
    a response without a message and an error, with no delay after either, and waits. -/
theorem neverSpins_pair :
    (Pool.start .pair { queue := threeResponses }).running? = some (.pair threeResponses) ∧
    NeverSpins (resume ((Pool.pair threeResponses).run (List.replicate 4 (.run 0))) {}
      (fun _ => ⟨[.yield, .sleep 5], none⟩) fun _ => ⟨[], none⟩) ∧
    ((resume ((Pool.pair threeResponses).run (List.replicate 4 (.run 0))) {}
      (fun _ => ⟨[.yield, .sleep 5], none⟩) fun _ => ⟨[], none⟩).turns?
        ([0] ++ List.replicate 7 1 ++ [0] ++ List.replicate 4 1)).map
          (fun t => (t.pool.workers, (t.step? 0).isNone && (t.step? 1).isNone)) =
      some ([.inTask ⟨some "1", some "h", none⟩, .receiving], true) :=
  ⟨rfl, neverSpins (Pool.pair_running _) (List.replicate 4 (.run 0)) {} _ _, by decide⟩

end Scripted

end Scenario

end ConsumerPool
