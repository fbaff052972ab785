import ConsumerPool.Proofs.Turn
import Mathlib.Data.List.Induction

/-! # Moments

  What a worker does and when. A moment is an act with the reading of the clock that it
  is stamped with. The clock never goes back, so the moments of a worker stand in the
  order of time; and each of them was made by one step of the run, from a state that had
  all the earlier ones. -/

namespace ConsumerPool

variable {w : Nat}

def Label.duration : Label → Nat
  | .advance duration => duration
  | _ => 0

theorem Label.duration_of_actor {l : Label} (h : l.actor? = some w) : l.duration = 0 := by
  cases l with
  | advance _ => cases h
  | _ => rfl

/-- What a worker did and when, if an event is about that worker. -/
def Event.momentOf? (w : Nat) (event : Event) : Option (Nat × Act) :=
  (event.actOf? w).map (Prod.mk event.time)

namespace Pool

/-- What a worker has done and when, in order. -/
def moments (s : Pool) (w : Nat) : List (Nat × Act) :=
  s.record.filterMap (Event.momentOf? w)

theorem map_snd_moments (s : Pool) (w : Nat) : (s.moments w).map Prod.snd = s.acts w := by
  unfold moments acts
  rw [List.map_filterMap]
  congr 1
  funext event
  simp [Event.momentOf?, Function.comp_def]

theorem moments_eq_nil {s : Pool} (h : s.acts w = []) : s.moments w = [] := by
  rw [← map_snd_moments, List.map_eq_nil_iff] at h
  exact h

/-- The acts on both sides of a moment. -/
theorem acts_of_moments {s : Pool} {t : Nat} {x : Act} {pre post : List (Nat × Act)}
    (h : s.moments w = pre ++ (t, x) :: post) :
    s.acts w = pre.map Prod.snd ++ x :: post.map Prod.snd := by
  rw [← map_snd_moments, h, List.map_append, List.map_cons]

/-! ### The clock -/

/-- A step moves the clock on by what its label says, and leaves the timer alone. -/
theorem time_step (s : Pool) (l : Label) :
    (s.step l).clock = s.clock + l.duration ∧ (s.step l).timer = s.timer := by
  -- no turn of a worker moves the clock
  have hturn {v : Nat} (hl : l.actor? = some v) :
      (s.step l).clock = s.clock ∧ (s.step l).timer = s.timer := by
    rcases s.step_of_actor hl with hsame | ⟨phase, e, -, -, he⟩
    · rw [hsame]
      exact ⟨rfl, rfl⟩
    · rw [he]
      exact ⟨rfl, rfl⟩
  cases l with
  | run v | task v _ | delete v _ => exact hturn rfl
  | advance _ | push _ | fireStop | setTransform _ | closeErrors | dropHandle =>
    exact ⟨rfl, rfl⟩
  | readError => simp only [step, readError]; split <;> exact ⟨rfl, rfl⟩
  | dropErrors => simp only [step, dropErrors]; split <;> exact ⟨rfl, rfl⟩
  | join => simp only [step, beginJoin]; split <;> exact ⟨rfl, rfl⟩
  | shutdown =>
    simp only [step, shutdown]
    split
    · simp only [beginJoin, fireStop]
      split <;> exact ⟨rfl, rfl⟩
    all_goals exact ⟨rfl, rfl⟩

/-- No step puts the clock back. -/
theorem clock_le_step (s : Pool) (l : Label) : s.clock ≤ (s.step l).clock := by
  have h := (time_step s l).1
  omega

theorem clock_le_run (s : Pool) (labels : List Label) : s.clock ≤ (s.run labels).clock := by
  induction labels generalizing s with
  | nil => exact Nat.le_refl _
  | cons l ls ih => exact Nat.le_trans (clock_le_step s l) (ih (s.step l))

theorem clock_le_append (s : Pool) (labels more : List Label) :
    (s.run labels).clock ≤ (s.run (labels ++ more)).clock := by
  rw [run_append]
  exact clock_le_run _ _

theorem timer_of_running {params : PoolParams} {around : Surroundings} {s : Pool}
    (h : (start params around).running? = some s) : s.timer = around.timer := by
  unfold start at h
  split at h
  · simp [Start.running?] at h
  · split at h
    · simp [Start.running?] at h
    · split at h
      all_goals
        next heq =>
          simp only [write, note, spawned, Prod.mk.injEq] at heq
          obtain ⟨rfl, -⟩ := heq
          simp only [Start.running?, Option.some.injEq] at h
          subst h
          rfl

/-! ### Steps add moments -/

theorem moments_apply_self (s : Pool) (w : Nat) (e : Effect) :
    (s.apply w e).moments w = s.moments w ++ e.acts.map (Prod.mk s.clock) := by
  simp [moments, apply, List.filterMap_map, Function.comp_def, Event.momentOf?,
    Event.actOf?]

theorem moments_apply_ne {s : Pool} {v w : Nat} (h : v ≠ w) (e : Effect) :
    (s.apply v e).moments w = s.moments w := by
  simp [moments, apply, List.filterMap_map, Function.comp_def, Event.momentOf?,
    Event.actOf?, h]

/-- What a worker does in a step is stamped with the clock. -/
theorem moments_step (s : Pool) (w : Nat) (l : Label) :
    (s.step l).moments w = s.moments w ++ (s.news w l).map (Prod.mk s.clock) := by
  cases stepKind s l with
  | outside _ hout =>
    obtain ⟨new, hrec, hnew⟩ := hout.record_eq
    -- what the reader does has no worker
    have hacts : new.filterMap (Event.actOf? w) = [] := by
      rw [List.filterMap_eq_nil_iff]
      intro event hmem
      simp [Event.actOf?, (hnew event hmem).1]
    have hmoments : new.filterMap (Event.momentOf? w) = [] := by
      rw [List.filterMap_eq_nil_iff]
      intro event hmem
      simp [Event.momentOf?, Event.actOf?, (hnew event hmem).1]
    have hnews : s.news w l = [] := by simp [news, acts, hrec, hacts]
    simp [moments, hrec, hmoments, hnews]
  | absent _ hsame =>
    have hnews : s.news w l = [] := by simp [news, hsame]
    rw [hsame, hnews, List.map_nil, List.append_nil]
  | @turn v _ e _ _ _ he =>
    by_cases hvw : v = w
    · subst hvw
      have hnews : s.news v l = e.acts := by simp [news, he]
      rw [he, moments_apply_self, hnews]
    · have hnews : s.news w l = [] := by simp [news, he, acts_apply_ne hvw]
      rw [he, moments_apply_ne hvw, hnews, List.map_nil, List.append_nil]

/-! ### The order of time -/

/-- The moments of a worker stand in the order of time, and none is to come. -/
structure InOrder (s : Pool) (w : Nat) : Prop where
  ordered : (s.moments w).Pairwise fun a b => a.1 ≤ b.1
  past : ∀ a ∈ s.moments w, a.1 ≤ s.clock

theorem InOrder.step {s : Pool} (h : s.InOrder w) (l : Label) : (s.step l).InOrder w := by
  have hclock := clock_le_step s l
  constructor
  · rw [moments_step, List.pairwise_append]
    refine ⟨h.ordered, ?_, ?_⟩
    · rw [List.pairwise_map]
      exact List.pairwise_of_forall fun _ _ => Nat.le_refl _
    · intro a ha b hb
      obtain ⟨x, -, rfl⟩ := List.mem_map.mp hb
      exact h.past a ha
  · intro a ha
    rw [moments_step, List.mem_append] at ha
    rcases ha with ha | ha
    · exact Nat.le_trans (h.past a ha) hclock
    · obtain ⟨x, -, rfl⟩ := List.mem_map.mp ha
      exact hclock

theorem InOrder.le {s : Pool} (h : s.InOrder w) {pre post : List (Nat × Act)}
    {a b : Nat × Act} (hmoments : s.moments w = pre ++ a :: post) (hb : b ∈ post) :
    a.1 ≤ b.1 := by
  have hordered := h.ordered
  rw [hmoments, List.pairwise_append] at hordered
  exact (List.pairwise_cons.mp hordered.2.1).1 b hb

theorem run_inOrder {params : PoolParams} {around : Surroundings} {s : Pool}
    (hs : Launched params around s) (w : Nat) (labels : List Label) :
    (s.run labels).InOrder w := by
  apply run_invariant (I := fun t => t.InOrder w)
  · have hnil : s.moments w = [] := moments_eq_nil (hs.acts_eq_nil w)
    constructor <;> simp [hnil]
  · intro t l h
    exact h.step l

/-! ### Where a moment comes from -/

/-- An element of two lists in a row is one of the first or one of the second. -/
theorem append_eq_append_cons {α : Type} {as bs pre post : List α} {x : α}
    (h : as ++ bs = pre ++ x :: post) :
    (∃ rest, as = pre ++ x :: rest ∧ post = rest ++ bs) ∨
      ∃ before, pre = as ++ before ∧ bs = before ++ x :: post := by
  rcases List.append_eq_append_iff.mp h with ⟨before, hpre, hbs⟩ | ⟨rest, has, hpost⟩
  · exact .inr ⟨before, hpre, hbs⟩
  · cases rest with
    | nil => exact .inr ⟨[], by simpa using has.symm, by simpa using hpost.symm⟩
    | cons y ys =>
      obtain ⟨rfl, rfl⟩ := List.cons.inj (by simpa using hpost)
      exact .inl ⟨ys, has, rfl⟩

/-- A moment of a run was made in one of its steps, from a state with all the moments
    before that step. -/
theorem exists_step_of_moment {s : Pool} {labels : List Label} {t : Nat} {x : Act}
    {pre post : List (Nat × Act)} (hs : s.moments w = [])
    (h : (s.run labels).moments w = pre ++ (t, x) :: post) :
    ∃ ls l ls' before after, labels = ls ++ l :: ls' ∧
      (s.run ls).news w l = before ++ x :: after ∧
      pre = (s.run ls).moments w ++ before.map (Prod.mk t) ∧ t = (s.run ls).clock := by
  -- the last step made it, or it was there before
  induction labels using List.reverseRecOn generalizing post with
  | nil =>
    rw [run_nil, hs] at h
    simp at h
  | append_singleton ls l ih =>
    have hrun : s.run (ls ++ [l]) = (s.run ls).step l := run_append s ls [l]
    rw [hrun, moments_step] at h
    rcases append_eq_append_cons h with ⟨rest, hold, -⟩ | ⟨before, hpre, hnew⟩
    · obtain ⟨ls₁, l₁, ls₂, before, after, rfl, hmade⟩ := ih hold
      exact ⟨ls₁, l₁, ls₂ ++ [l], before, after, by simp, hmade⟩
    · obtain ⟨acts, acts', hacts, rfl, hrest⟩ := List.map_eq_append_iff.mp hnew
      obtain ⟨y, after, rfl, hy, -⟩ := List.map_eq_cons_iff.mp hrest
      obtain ⟨rfl, rfl⟩ := Prod.mk.inj hy
      exact ⟨ls, l, [], acts, after, rfl, hacts, hpre, rfl⟩

/-- A moment of a run was made in a turn of its worker. -/
theorem exists_turn_of_moment {s : Pool} {labels : List Label} {t : Nat} {x : Act}
    {pre post : List (Nat × Act)} (hs : s.moments w = [])
    (h : (s.run labels).moments w = pre ++ (t, x) :: post) :
    ∃ ls l ls' phase e before after, labels = ls ++ l :: ls' ∧
      (s.run ls).workers[w]? = some phase ∧ Turn (s.run ls) w l phase e ∧
      ((s.run ls).step l).workers[w]? = some e.phase ∧ e.acts = before ++ x :: after ∧
      pre = (s.run ls).moments w ++ before.map (Prod.mk t) ∧ t = (s.run ls).clock := by
  obtain ⟨ls, l, ls', before, after, hlabels, hnews, hmade⟩ := exists_step_of_moment hs h
  rcases news_view (s.run ls) l w with ⟨hnil, -⟩ | ⟨phase, e, hp, hturn, hnext, hacts⟩
  · rw [hnil] at hnews
    simp at hnews
  · exact ⟨ls, l, ls', phase, e, before, after, hlabels, hp, hturn, hnext,
      hacts.symm.trans hnews, hmade⟩

/-- A turn that begins a receive does nothing else, and the stop signal has not fired. -/
theorem Turn.begins {s : Pool} {l : Label} {phase : Phase} {e : Effect}
    (ht : Turn s w l phase e) (h : .receiveBegun ∈ e.acts) :
    phase = .polling ∧ s.stop = false ∧ e.acts = [.receiveBegun] := by
  cases ht with
  | pollBegin hs => exact ⟨rfl, hs, rfl⟩
  | start | call | reportDropped _ | logFailure | complete | leave =>
    simp only [spoken] at h
    split at h <;> simp [effect] at h
  | _ => simp [effect] at h

/-- The receive that a worker has begun at some moment was begun by a step of its own,
    from a state with all the moments before. -/
theorem exists_step_of_receive {s : Pool} {labels : List Label} {t : Nat}
    {pre post : List (Nat × Act)} (hs : s.moments w = [])
    (h : (s.run labels).moments w = pre ++ (t, .receiveBegun) :: post) :
    ∃ ls l ls', labels = ls ++ l :: ls' ∧ (s.run ls).workers[w]? = some .polling ∧
      (s.run ls).moments w = pre ∧ (s.run ls).clock = t := by
  obtain ⟨ls, l, ls', phase, e, before, after, hlabels, hp, hturn, -, hacts, hpre, ht⟩ :=
    exists_turn_of_moment hs h
  have hmem : .receiveBegun ∈ e.acts := by
    rw [hacts]
    exact List.mem_append_cons_self
  obtain ⟨rfl, -, honly⟩ := hturn.begins hmem
  -- nothing stands before it in its step
  have hbefore : before = [] := by
    rw [honly] at hacts
    cases before with
    | nil => rfl
    | cons y ys => simp at hacts
  subst hbefore
  exact ⟨ls, l, ls', hlabels, hp, by simpa using hpre.symm, ht.symm⟩

end Pool

end ConsumerPool
