import ConsumerPool.Proofs.Protocol

/-! # How a Worker Handles a Response

  The protocol cut into pieces: what can follow the delivery of a message, the
  call of the task, and an error that is to be reported. Each piece is a view,
  an inductive list of cases with what the worker has done and what it goes on
  with. A settled stage owes nothing more for the last response. -/

namespace ConsumerPool

variable {logger : Logger} {w : Nat}

/-! ### Settled stages -/

/-- Whether nothing is left to do for the last response but lines, the end of a
    delete that runs, and a pause. -/
def Stage.settled : Stage → Bool
  | .ready | .resting | .stopping | .closing | .rejected _ _ | .deleting _
  | .deleteFailed _ _ | .finishing _ | .dying _ | .ended => true
  | .fresh | .receiving | .holding _ | .announced _ | .inTask _ | .succeeded _
  | .recovering _ _ | .owing _ _ => false

/-- Whether an act takes a response or decides what becomes of it. -/
def Act.attends : Act → Bool
  | .received _ | .taskBegun _ | .taskEnded _ _ | .transformed _ _ | .reported _ _
  | .deleteBegun _ => true
  | .logged _ | .receiveBegun | .receiveAbandoned | .deleteEnded _ _ | .paused _
  | .exited | .crashed _ | .errorRead _ | .errorsDiscarded _ => false

theorem Next.settled {a b : Stage} {x : Act} (h : Next logger w a x b)
    (ha : a.settled = true) (hx : x ≠ .receiveBegun) :
    b.settled = true ∧ x.attends = false := by
  cases h with
  | say hs =>
    cases hs with
    | start | announce => simp [Stage.settled] at ha
    | stop | stopRested | stopSeen | dropAndPoll | dropAndIdle | logFailure | complete =>
      exact ⟨rfl, rfl⟩
  | choke _ _ | crash | exit | pause | deleteOk | deleteFailed | deletePanicked =>
    exact ⟨rfl, rfl⟩
  | receive | receiveRested => exact absurd rfl hx
  | abandon | deliver | deliverNone | receiveFailed | receivePanicked | call | succeed
  | delete | taskFailed | taskPanicked | taskCaught | disposalPanicked | transform
  | transformPanicked
  | reportAndPoll | reportAndIdle | reject => simp [Stage.settled] at ha

/-- From a settled stage on, nothing more becomes of the last response. -/
theorem Follows.quiet {a b : Stage} {xs : List Act} (h : Follows logger w a xs b)
    (ha : a.settled = true) : ∀ x ∈ untilReceive xs, x.attends = false := by
  induction h with
  | nil => simp
  | @cons a b c x xs hx _ ih =>
    -- the next receive ends the part that counts
    by_cases hr : x = .receiveBegun
    · subst hr
      simp
    · obtain ⟨hb, hquiet⟩ := hx.settled ha hr
      exact forall_untilReceive_cons hquiet (ih hb)

/-- No act that a selection picks follows a settled stage, if it picks only
    such as attend to a response. -/
theorem Follows.select_quiet {α : Type} {f : Act → Option α} {a b : Stage}
    {xs : List Act} (h : Follows logger w a xs b) (ha : a.settled = true)
    (hf : ∀ x : Act, x.attends = false → f x = none) :
    (untilReceive xs).filterMap f = [] := by
  rw [List.filterMap_eq_nil_iff]
  intro x hx
  exact hf x (h.quiet ha x hx)

namespace Act

theorem call?_quiet (x : Act) (h : x.attends = false) : x.call? = none := by
  cases x <;> simp_all [attends, call?]

theorem delete?_quiet (x : Act) (h : x.attends = false) : x.delete? = none := by
  cases x <;> simp_all [attends, delete?]

theorem report?_quiet (x : Act) (h : x.attends = false) : x.report? = none := by
  cases x <;> simp_all [attends, report?]

end Act

/-! ### Views -/

/-- What follows the delivery of a message, and where it leads. -/
inductive Handled (logger : Logger) (w : Nat) (m : Message) : List Act → Stage → Prop where
  | waiting : Handled logger w m [] (.holding m)
  /-- The logger panics when the message is announced. -/
  | unannounced {p} : logger.MayPanic (.processing m.shownId) p →
      Handled logger w m [.logged (.processing m.shownId), .crashed p] .ended
  | called {xs c} : Follows logger w (.inTask m) xs c →
      Handled logger w m (.logged (.processing m.shownId) :: .taskBegun m :: xs) c

/-- What follows the call of the task, and where it leads. -/
inductive Ran (logger : Logger) (w : Nat) (m : Message) : List Act → Stage → Prop where
  | running : Ran logger w m [] (.inTask m)
  | acknowledged {xs c} : Follows logger w (.deleting m) xs c →
      Ran logger w m (.taskEnded m .ok :: .deleteBegun m :: xs) c
  | failed {source xs c} :
      Follows logger w (.owing (.task m.shownId source) .poll) xs c →
      Ran logger w m (.taskEnded m (.failed source) :: xs) c
  | panicked {p xs c} :
      Follows logger w (.owing (.task m.shownId p.recovered) .poll) xs c →
      Ran logger w m (.taskEnded m (.panicked (.plain p)) :: xs) c
  | transformed {p origin source xs c} :
      Follows logger w (.owing (.task m.shownId source) .poll) xs c →
      Ran logger w m
        (.taskEnded m (.panicked (.plain p)) :: .transformed origin p.recovered :: xs) c
  | lost {p origin q} :
      Ran logger w m
        [.taskEnded m (.panicked (.plain p)), .transformed origin p.recovered, .crashed q]
        .ended
  | undisposed {q} :
      Ran logger w m [.taskEnded m (.panicked (.fragile q)), .crashed q] .ended

/-- What follows when an error is to be reported, and where it leads. -/
inductive Told (logger : Logger) (w : Nat) (e : PoolError) (after : AfterReport) :
    List Act → Stage → Prop where
  | due : Told logger w e after [] (.owing e after)
  | made {taken b xs c} : b.settled = true → Follows logger w b xs c →
      Told logger w e after (.reported e taken :: xs) c

theorem Follows.of_ended {xs : List Act} {c : Stage} (h : Follows logger w .ended xs c) :
    xs = [] ∧ c = .ended := by
  cases h with
  | nil => exact ⟨rfl, rfl⟩
  | cons hx _ =>
    cases hx with
    | say hs | choke hs _ => cases hs

theorem Follows.of_dying {p : Payload} {xs : List Act} {c : Stage} {phase : Phase}
    (h : Follows logger w (.dying p) xs c) (hc : c.Shows phase) :
    xs = [.crashed p] ∧ c = .ended := by
  cases h with
  | nil => cases hc
  | cons hx hxs =>
    cases hx with
    | say hs | choke hs _ => cases hs
    | crash =>
      obtain ⟨rfl, rfl⟩ := hxs.of_ended
      exact ⟨rfl, rfl⟩

theorem Follows.handled {m : Message} {xs : List Act} {c : Stage} {phase : Phase}
    (h : Follows logger w (.holding m) xs c) (hc : c.Shows phase) :
    Handled logger w m xs c := by
  cases h with
  | nil => exact .waiting
  | cons hx hxs =>
    cases hx with
    | say hs =>
      cases hs
      cases hxs with
      | nil => cases hc
      | cons hy hys =>
        cases hy with
        | call => exact .called hys
        | say hs | choke hs _ => cases hs
    | choke hs hp =>
      cases hs
      obtain ⟨rfl, rfl⟩ := hxs.of_dying hc
      exact .unannounced hp

theorem Follows.ran {m : Message} {xs : List Act} {c : Stage} {phase : Phase}
    (h : Follows logger w (.inTask m) xs c) (hc : c.Shows phase) :
    Ran logger w m xs c := by
  cases h with
  | nil => exact .running
  | cons hx hxs =>
    cases hx with
    | say hs | choke hs _ => cases hs
    | succeed =>
      -- no worker rests between the return and the delete
      cases hxs with
      | nil => cases hc
      | cons hy hys =>
        cases hy with
        | delete => exact .acknowledged hys
        | say hs | choke hs _ => cases hs
    | taskFailed => exact .failed hxs
    | taskPanicked => exact .panicked hxs
    | taskCaught =>
      -- no worker rests between the panic and the call of the transform
      cases hxs with
      | nil => cases hc
      | cons hy hys =>
        cases hy with
        | transform => exact .transformed hys
        | transformPanicked =>
          obtain ⟨rfl, rfl⟩ := hys.of_dying hc
          exact .lost
        | say hs | choke hs _ => cases hs
    | disposalPanicked =>
      obtain ⟨rfl, rfl⟩ := hxs.of_dying hc
      exact .undisposed

theorem Follows.told {e : PoolError} {after : AfterReport} {xs : List Act} {c : Stage}
    (h : Follows logger w (.owing e after) xs c) : Told logger w e after xs c := by
  cases h with
  | nil => exact .due
  | cons hx hxs =>
    cases hx with
    | say hs | choke hs _ => cases hs
    | reportAndPoll | reportAndIdle | reject => exact .made rfl hxs

/-- While an error is owed, nothing but its report becomes of the last response. -/
theorem Follows.owing_quiet {e : PoolError} {after : AfterReport} {xs : List Act}
    {c : Stage} (h : Follows logger w (.owing e after) xs c) :
    ∀ x ∈ untilReceive xs, x.attends = true → ∃ taken, x = .reported e taken := by
  cases h.told with
  | due => simp
  | @made taken b ys _ hb hys =>
    refine forall_untilReceive_cons (fun _ => ⟨taken, rfl⟩) fun x hx hattends => ?_
    rw [hys.quiet hb x hx] at hattends
    cases hattends

/-- While an error is owed, a selection that picks no report picks nothing, if it
    picks only such acts as attend to a response. -/
theorem Follows.owing_select {α : Type} {f : Act → Option α} {e : PoolError}
    {after : AfterReport} {xs : List Act} {c : Stage}
    (h : Follows logger w (.owing e after) xs c)
    (hf : ∀ x : Act, x.attends = false → f x = none)
    (hr : ∀ e taken, f (.reported e taken) = none) :
    (untilReceive xs).filterMap f = [] := by
  rw [List.filterMap_eq_nil_iff]
  intro x hx
  cases hattends : x.attends with
  | false => exact hf x hattends
  | true =>
    obtain ⟨taken, rfl⟩ := h.owing_quiet x hx hattends
    exact hr e taken

/-! ### What came before -/

/-- A receive that runs has just begun. -/
theorem Follows.before_receiving {xs : List Act}
    (h : Follows logger w .fresh xs .receiving) : ∃ ys, xs = ys ++ [.receiveBegun] := by
  obtain ⟨ys, x, b, rfl, -, hx⟩ := h.last (by rintro rfl; cases h)
  cases hx with
  | receive | receiveRested => exact ⟨ys, rfl⟩
  | say hs => cases hs

theorem Follows.before_holding {m : Message} {xs : List Act}
    (h : Follows logger w .fresh xs (.holding m)) :
    ∃ ys ms, xs = ys ++ [.received (.messages (m :: ms))] := by
  obtain ⟨ys, x, b, rfl, -, hx⟩ := h.last (by rintro rfl; cases h)
  cases hx with
  | deliver => exact ⟨ys, _, rfl⟩
  | say hs => cases hs

theorem Follows.before_announced {m : Message} {xs : List Act}
    (h : Follows logger w .fresh xs (.announced m)) :
    ∃ ys ms, xs =
      ys ++ [.received (.messages (m :: ms)), .logged (.processing m.shownId)] := by
  obtain ⟨ys, x, b, rfl, hys, hx⟩ := h.last (by rintro rfl; cases h)
  cases hx with
  | say hs =>
    cases hs
    obtain ⟨zs, ms, rfl⟩ := hys.before_holding
    exact ⟨zs, ms, by simp⟩

theorem Follows.before_inTask {m : Message} {xs : List Act}
    (h : Follows logger w .fresh xs (.inTask m)) :
    ∃ ys ms, xs = ys ++ [.received (.messages (m :: ms)),
      .logged (.processing m.shownId), .taskBegun m] := by
  obtain ⟨ys, x, b, rfl, hys, hx⟩ := h.last (by rintro rfl; cases h)
  cases hx with
  | say hs => cases hs
  | call =>
    obtain ⟨zs, ms, rfl⟩ := hys.before_announced
    exact ⟨zs, ms, by simp⟩

theorem Follows.before_succeeded {m : Message} {xs : List Act}
    (h : Follows logger w .fresh xs (.succeeded m)) :
    ∃ ys ms, xs = ys ++ [.received (.messages (m :: ms)),
      .logged (.processing m.shownId), .taskBegun m, .taskEnded m .ok] := by
  obtain ⟨ys, x, b, rfl, hys, hx⟩ := h.last (by rintro rfl; cases h)
  cases hx with
  | say hs => cases hs
  | succeed =>
    obtain ⟨zs, ms, rfl⟩ := hys.before_inTask
    exact ⟨zs, ms, by simp⟩

end ConsumerPool
