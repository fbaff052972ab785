import ConsumerPool.Proofs.Handling

/-! # Delivery

  Each response is handed over to one worker at most, and each message handed
  over is given to the task once. The stop signal can make a worker give up a
  receive, but then the receive has taken no response. -/

namespace ConsumerPool

variable {logger : Logger} {w : Nat}

/-! ### Calls match deliveries -/

/-- The message that is received and that the task is still to be called on. -/
def Stage.uncalled : Stage → List Message
  | .holding m | .announced m => [m]
  | _ => []

/-- A rule keeps the balance of deliveries and calls, unless the logger panics when a
    message is announced. -/
theorem Next.calls {a b : Stage} {x : Act} (h : Next logger w a x b) :
    a.uncalled ++ x.delivery?.toList = x.call?.toList ++ b.uncalled ∨
      ∃ m p, a = .holding m ∧ x = .logged (.processing m.shownId) ∧ b = .dying p ∧
        logger.MayPanic (.processing m.shownId) p := by
  cases h with
  | say hs => left; cases hs <;> rfl
  | choke hs hp =>
    cases hs with
    | @announce m => exact .inr ⟨m, _, rfl, rfl, rfl, hp⟩
    | _ => exact .inl rfl
  | _ => exact .inl rfl

/-- The last message received was announced and not given to the task, since the
    logger panicked. -/
def Unannounced (logger : Logger) (acts : List Act) (m : Message) : Prop :=
  ∃ p, [.logged (.processing m.shownId), .crashed p] <:+ acts ∧
    logger.MayPanic (.processing m.shownId) p

/-- Along a chain of rules the calls are the deliveries, in order, but for the last
    message if it is still to be announced or if the logger panics at that. -/
theorem Follows.calls {a b : Stage} {xs : List Act} {phase : Phase}
    (h : Follows logger w a xs b) (hb : b.Shows phase) :
    a.uncalled ++ xs.filterMap Act.delivery? = xs.filterMap Act.call? ++ b.uncalled ∨
      ∃ m, Unannounced logger xs m ∧
        a.uncalled ++ xs.filterMap Act.delivery? = xs.filterMap Act.call? ++ [m] := by
  induction h with
  | nil => left; simp
  | @cons a b c x xs hx hxs ih =>
    rcases hx.calls with hbal | ⟨m, p, rfl, rfl, rfl, hp⟩
    · rw [filterMap_cons_eq, filterMap_cons_eq]
      rcases ih hb with hrest | ⟨m, ⟨p, hend, hp⟩, hrest⟩
      · exact .inl (balance_append hbal hrest)
      · exact .inr ⟨m, ⟨p, hend.trans (List.suffix_cons _ _), hp⟩,
          balance_append hbal hrest⟩
    · -- the worker dies of the panic, so nothing comes after this rule
      obtain ⟨rfl, rfl⟩ := hxs.of_dying hb
      exact .inr ⟨m, ⟨p, List.suffix_rfl, hp⟩, rfl⟩

/-! ### What a delivery leads to -/

/-- Whether an act concerns no message but this one. -/
def Act.About (m : Message) (x : Act) : Prop :=
  (∀ m', x.call? = some m' → m' = m) ∧ (∀ m', x.delete? = some m' → m' = m) ∧
    ∀ e, x.report? = some e → ∃ source, e = .task m.shownId source

theorem Act.about_taskBegun (m : Message) : (Act.taskBegun m).About m := by
  simp [Act.About, Act.call?, Act.delete?, Act.report?]

theorem Act.about_deleteBegun (m : Message) : (Act.deleteBegun m).About m := by
  simp [Act.About, Act.call?, Act.delete?, Act.report?]

theorem Act.about_reported (m : Message) (source : TaskError) (taken : Bool) :
    (Act.reported (.task m.shownId source) taken).About m := by
  simp [Act.About, Act.call?, Act.delete?, Act.report?]

theorem Act.about_other (m : Message) {x : Act} (hc : x.call? = none)
    (hd : x.delete? = none) (hr : x.report? = none) : x.About m := by
  simp [Act.About, hc, hd, hr]

theorem Act.about_quiet (m : Message) {x : Act} (h : x.attends = false) : x.About m :=
  about_other m (x.call?_quiet h) (x.delete?_quiet h) (x.report?_quiet h)

theorem Follows.owing_about {m : Message} {source : TaskError} {after : AfterReport}
    {xs : List Act} {c : Stage}
    (h : Follows logger w (.owing (.task m.shownId source) after) xs c) :
    ∀ x ∈ untilReceive xs, x.About m := by
  cases h.told with
  | due => simp
  | made hb hys =>
    exact forall_untilReceive_cons (Act.about_reported m source _) fun x hx =>
      Act.about_quiet m (hys.quiet hb x hx)

/-- All that a task leads to before the next receive is about its message. -/
theorem Ran.about {m : Message} {xs : List Act} {c : Stage} (h : Ran logger w m xs c) :
    ∀ x ∈ untilReceive xs, x.About m := by
  have hother {x : Act} := Act.about_other m (x := x)
  cases h with
  | running => simp
  | acknowledged hd =>
    refine forall_untilReceive_cons (hother rfl rfl rfl) ?_
    exact forall_untilReceive_cons (Act.about_deleteBegun m) fun x hx =>
      Act.about_quiet m (hd.quiet rfl x hx)
  | failed ho | panicked ho => exact forall_untilReceive_cons (hother rfl rfl rfl) ho.owing_about
  | transformed ho =>
    refine forall_untilReceive_cons (hother rfl rfl rfl) ?_
    exact forall_untilReceive_cons (hother rfl rfl rfl) ho.owing_about
  | lost =>
    refine forall_untilReceive_cons (hother rfl rfl rfl) ?_
    refine forall_untilReceive_cons (hother rfl rfl rfl) ?_
    exact forall_untilReceive_cons (hother rfl rfl rfl) (by simp)
  | undisposed =>
    refine forall_untilReceive_cons (hother rfl rfl rfl) ?_
    exact forall_untilReceive_cons (hother rfl rfl rfl) (by simp)

theorem Handled.about {m : Message} {xs : List Act} {c : Stage} {phase : Phase}
    (h : Handled logger w m xs c) (hc : c.Shows phase) :
    ∀ x ∈ untilReceive xs, x.About m := by
  have hother {x : Act} := Act.about_other m (x := x)
  cases h with
  | waiting => simp
  | unannounced _ =>
    refine forall_untilReceive_cons (hother rfl rfl rfl) ?_
    exact forall_untilReceive_cons (hother rfl rfl rfl) (by simp)
  | called hrun =>
    refine forall_untilReceive_cons (hother rfl rfl rfl) ?_
    exact forall_untilReceive_cons (Act.about_taskBegun m) (hrun.ran hc).about

/-- A task that runs is not called again before the next receive. -/
theorem Ran.calls {m : Message} {xs : List Act} {c : Stage} (h : Ran logger w m xs c) :
    (untilReceive xs).filterMap Act.call? = [] := by
  have howing {source : TaskError} {ys : List Act}
      (ho : Follows logger w (.owing (.task m.shownId source) .poll) ys c) :
      ∀ x ∈ untilReceive ys, x.call? = none := by
    rw [← List.filterMap_eq_nil_iff]
    exact ho.owing_select Act.call?_quiet fun _ _ => rfl
  rw [List.filterMap_eq_nil_iff]
  cases h with
  | running => simp
  | acknowledged hd =>
    exact forall_untilReceive_cons rfl (forall_untilReceive_cons rfl fun x hx =>
      x.call?_quiet (hd.quiet rfl x hx))
  | failed ho | panicked ho => exact forall_untilReceive_cons rfl (howing ho)
  | transformed ho =>
    exact forall_untilReceive_cons rfl (forall_untilReceive_cons rfl (howing ho))
  | lost | undisposed => simp [untilReceive_cons, Act.call?]

/-! ### What one worker does with what it receives -/

/-- A worker calls the task on each message that it receives, and on nothing else. -/
structure CallsDelivered (s : Pool) (w : Nat) : Prop where
  /-- After the delivery of a message and before the next receive, the task is called
      once, on this message, unless the worker has not come to it yet or the logger has
      panicked when the message was announced. -/
  delivery : ∀ pre m ms post, s.acts w = pre ++ .received (.messages (m :: ms)) :: post →
    (untilReceive post).filterMap Act.call? = [m] ∨
      (post = [] ∧ s.workers[w]? = some (.holding m)) ∨
      ∃ p, post = [.logged (.processing m.shownId), .crashed p] ∧
        s.params.loggerInUse.MayPanic (.processing m.shownId) p
  /-- Messages after the first one of a response play no part. -/
  others : ∀ pre m ms post, s.acts w = pre ++ .received (.messages (m :: ms)) :: post →
    ∀ x ∈ untilReceive post, x.About m
  /-- After a response without a message the task is not called, and nothing is
      deleted. -/
  nothing : ∀ pre r post, s.acts w = pre ++ .received r :: post →
    (∀ m ms, r ≠ .messages (m :: ms)) →
    (untilReceive post).filterMap Act.call? = [] ∧
      (untilReceive post).filterMap Act.delete? = []
  /-- Every call of the task is on a message just received. -/
  only : ∀ pre m post, s.acts w = pre ++ .taskBegun m :: post →
    ∃ before ms, pre = before ++
      [.received (.messages (m :: ms)), .logged (.processing m.shownId)]
  /-- The calls are the deliveries, in order; only the last one can lack. -/
  inOrder : ∃ last, (s.acts w).filterMap Act.delivery? =
      (s.acts w).filterMap Act.call? ++ last ∧
    (last = [] ∨ ∃ m, last = [m] ∧ (s.workers[w]? = some (.holding m) ∨
      Unannounced s.params.loggerInUse (s.acts w) m))
  /-- A receive that is given up takes no response, and no other one begins. -/
  abandoned : ∀ pre post, s.acts w = pre ++ .receiveAbandoned :: post →
    (∃ before, pre = before ++ [.receiveBegun]) ∧ .receiveBegun ∉ post ∧
      post.filterMap Act.received? = []

/-- After a response without a message the worker owes at most a report. -/
theorem Next.nothing {a b : Stage} {r : Received} (h : Next logger w a (.received r) b)
    (hr : ∀ m ms, r ≠ .messages (m :: ms)) :
    b.settled = true ∨ ∃ e, b = .owing e .idle := by
  cases h with
  | deliver => exact absurd rfl (hr _ _)
  | deliverNone | receivePanicked => exact .inl rfl
  | receiveFailed => exact .inr ⟨_, rfl⟩

theorem Follows.after_stopping {xs : List Act} {c : Stage} {phase : Phase}
    (h : Follows logger w .stopping xs c) (hc : c.Shows phase) :
    .receiveBegun ∉ xs ∧ xs.filterMap Act.received? = [] := by
  cases h with
  | nil => simp
  | cons hx hxs =>
    cases hx with
    | choke hs _ =>
      cases hs
      obtain ⟨rfl, -⟩ := hxs.of_dying hc
      simp [Act.received?]
    -- only the exit follows the line
    | say hs =>
      cases hs
      cases hxs with
      | nil => cases hc
      | cons hy hys =>
        cases hy with
        | say hs | choke hs _ => cases hs
        | exit =>
          obtain ⟨rfl, -⟩ := hys.of_ended
          simp [Act.received?]

namespace Pool

/-- A worker on the protocol calls the task on what it receives. -/
theorem At.callsDelivered {s : Pool} {stage : Stage} {phase : Phase}
    (h : s.At w stage phase) : CallsDelivered s w where
  delivery := by
    intro pre m ms post hx
    -- what follows the delivery is one of the ways in which a delivery is handled
    obtain ⟨a, b, -, hnext, hpost⟩ := h.around hx
    cases hnext
    cases hpost.handled h.shows with
    | waiting =>
      cases h.shows
      exact .inr (.inl ⟨rfl, h.phase_eq⟩)
    | unannounced hp => exact .inr (.inr ⟨_, rfl, hp⟩)
    | called hrun =>
      left
      have hcalls := (hrun.ran h.shows).calls
      simp [untilReceive_cons, List.filterMap_cons, Act.call?, hcalls,
        -List.filterMap_eq_nil_iff]
  others := by
    intro pre m ms post hx
    obtain ⟨a, b, -, hnext, hpost⟩ := h.around hx
    cases hnext
    exact (hpost.handled h.shows).about h.shows
  nothing := by
    intro pre r post hx hr
    obtain ⟨a, b, -, hnext, hpost⟩ := h.around hx
    -- either nothing is left to do, or an error is owed, and neither leads to a call
    rcases hnext.nothing hr with hb | ⟨e, rfl⟩
    · exact ⟨hpost.select_quiet hb Act.call?_quiet, hpost.select_quiet hb Act.delete?_quiet⟩
    · exact ⟨hpost.owing_select Act.call?_quiet fun _ _ => rfl,
        hpost.owing_select Act.delete?_quiet fun _ _ => rfl⟩
  only := by
    intro pre m post hx
    obtain ⟨a, b, hpre, hnext, -⟩ := h.around hx
    cases hnext
    exact hpre.before_announced
  inOrder := by
    -- the last message is still to be announced, or the logger has panicked at that
    rcases h.follows.calls h.shows with hcalls | ⟨m, hm, hcalls⟩
    · refine ⟨stage.uncalled, hcalls, ?_⟩
      cases h.shows with
      | @holding m => exact .inr ⟨m, rfl, .inl h.phase_eq⟩
      | _ => exact .inl rfl
    · exact ⟨[m], hcalls, .inr ⟨m, rfl, .inr hm⟩⟩
  abandoned := by
    intro pre post hx
    obtain ⟨a, b, hpre, hnext, hpost⟩ := h.around hx
    cases hnext
    exact ⟨hpre.before_receiving, hpost.after_stopping h.shows⟩

/-! ### What the client hands over -/

/-- What the client has handed over to all workers, in order. -/
def handedOver (s : Pool) : List Received := s.record.filterMap fun e => e.act.received?

/-- A turn takes at most one response, the next one, and hands it over. -/
theorem Turn.takes {s : Pool} {l : Label} {phase : Phase} {e : Effect}
    (ht : Turn s w l phase e) :
    ∃ taken, s.queue = taken ++ e.queue ∧
      e.acts.filterMap Act.received? = taken.map Response.received := by
  cases ht with
  | deliver _ hq | deliverNone _ hq | receiveFailed _ hq | receivePanicked _ hq =>
    exact ⟨[_], hq, rfl⟩
  | start | call | reportDropped _ | logFailure | complete | leave =>
    refine ⟨[], ?_, ?_⟩
    · simp only [spoken]
      split <;> rfl
    · simp only [spoken]
      split <;> rfl
  | _ => exact ⟨[], rfl, rfl⟩

theorem step_takes (s : Pool) (l : Label) :
    ∃ taken, s.queue ++ l.pushed = taken ++ (s.step l).queue ∧
      (s.step l).handedOver = s.handedOver ++ taken.map Response.received := by
  cases stepKind s l with
  | outside _ hout =>
    obtain ⟨new, hrec, hnew⟩ := hout.record_eq
    refine ⟨[], hout.queue_eq.symm, ?_⟩
    -- the reader takes errors, no responses
    have hnone : new.filterMap (fun e => e.act.received?) = [] :=
      filterMap_reading (fun a ha => by cases a <;> first | rfl | cases ha) hnew
    simp [handedOver, hrec, hnone]
  | absent hpush hsame => exact ⟨[], by simp [hpush, hsame], by simp [hsame]⟩
  | @turn _ _ e hpush _ ht he =>
    obtain ⟨taken, hq, hacts⟩ := ht.takes
    have hover : (s.step l).handedOver = s.handedOver ++ e.acts.filterMap Act.received? := by
      rw [he, handedOver, record_apply, List.filterMap_append, List.filterMap_map]
      rfl
    have hqueue : s.queue ++ l.pushed = taken ++ (s.step l).queue := by
      rw [hpush, List.append_nil, he]
      exact hq
    exact ⟨taken, hqueue, by rw [hover, hacts]⟩

/-- **Conservation of responses.** What a run finds in the client and what arrives is
    what it hands over, in order, and what the client still holds. -/
theorem run_takes (s : Pool) (labels : List Label) :
    ∃ taken, s.queue ++ labels.flatMap Label.pushed = taken ++ (s.run labels).queue ∧
      (s.run labels).handedOver = s.handedOver ++ taken.map Response.received := by
  -- from the start on: each step takes from the front of what the last one left
  induction labels generalizing s with
  | nil => exact ⟨[], by simp⟩
  | cons l ls ih =>
    obtain ⟨first, hq, hover⟩ := step_takes s l
    obtain ⟨rest, hqs, hovers⟩ := ih (s.step l)
    refine ⟨first ++ rest, ?_, ?_⟩
    · calc s.queue ++ (l :: ls).flatMap Label.pushed
          = (s.queue ++ l.pushed) ++ ls.flatMap Label.pushed := by simp
        _ = first ++ ((s.step l).queue ++ ls.flatMap Label.pushed) := by
            rw [hq, List.append_assoc]
        _ = (first ++ rest) ++ (s.run (l :: ls)).queue := by
            rw [hqs, List.append_assoc, run_cons]
    · rw [run_cons, hovers, hover, List.map_append, List.append_assoc]

/-! ### Who gets what -/

/-- Every response handed over is handed to a worker of the pool. -/
def HandsToWorkers (s : Pool) : Prop :=
  ∀ e ∈ s.record, ∀ r, e.act = .received r → ∃ w, e.worker = some w ∧ w < s.workers.length

theorem HandsToWorkers.step {s : Pool} (h : HandsToWorkers s) (l : Label) :
    HandsToWorkers (s.step l) := by
  intro e he r hr
  rw [length_workers_step]
  cases stepKind s l with
  | outside _ hout =>
    obtain ⟨new, hrec, hnew⟩ := hout.record_eq
    rw [hrec, List.mem_append] at he
    rcases he with he | he
    · exact h e he r hr
    -- the outside records only what the reader does
    · have hread := (hnew e he).2
      rw [hr] at hread
      cases hread
  | absent _ hsame =>
    rw [hsame] at he
    exact h e he r hr
  | @turn v _ _ _ hv _ heq =>
    rw [heq, record_apply, List.mem_append] at he
    rcases he with he | he
    · exact h e he r hr
    · obtain ⟨a, -, rfl⟩ := List.mem_map.mp he
      exact ⟨v, rfl, (List.getElem?_eq_some_iff.mp hv).1⟩

/-- When the stop signal and a response are both there, the stop signal wins: the
    response stays where it is. -/
theorem abandon_step {s : Pool} (hstop : s.stop = true)
    (hw : s.workers[w]? = some .receiving) :
    (s.step (.run w)).queue = s.queue ∧
      (s.step (.run w)).acts w = s.acts w ++ [.receiveAbandoned] ∧
      (s.step (.run w)).workers[w]? = some .leaving := by
  obtain ⟨e, ht, he⟩ := turn_of_step (l := .run w) rfl hw
  rw [he, acts_apply_self, phase_apply_self hw]
  cases ht with
  | wait hrun => simp [canRun, hw, hstop] at hrun
  | abandon _ => exact ⟨rfl, rfl, rfl⟩
  | deliver hs _ | deliverNone hs _ | receiveFailed hs _ | receivePanicked hs _ =>
    rw [hstop] at hs
    cases hs

/-- Where the responses supplied to a pool are: each with the worker that handles it, or
    still in the client. -/
structure Delivers (s : Pool) (supplied : List Response) : Prop where
  /-- What was supplied is what is handed over and what the client holds, in order. -/
  conserved : ∃ taken, supplied = taken ++ s.queue ∧
    s.handedOver = taken.map Response.received
  /-- Each response handed over is handed to one worker of the pool. -/
  toWorkers : ∀ e ∈ s.record, ∀ r, e.act = .received r →
    ∃ w, e.worker = some w ∧ w < s.params.workerCount
  /-- Each worker calls the task on what is handed to it. -/
  called : ∀ w < s.params.workerCount, CallsDelivered s w
  /-- A receive that meets the stop signal takes no response and ends the loop. -/
  stopWins : s.stop = true → ∀ w, s.workers[w]? = some .receiving →
    (s.step (.run w)).queue = s.queue ∧
      (s.step (.run w)).acts w = s.acts w ++ [.receiveAbandoned] ∧
      (s.step (.run w)).workers[w]? = some .leaving

/-- **No delivery is lost or duplicated.** In every run of every pool that a start
    leaves, the responses supplied are handed over in order, each to one worker, and the
    worker calls the task on the first message of each, once. -/
theorem run_delivers {params : PoolParams} {around : Surroundings} {s : Pool}
    (hs : (start params around).running? = some s) (labels : List Label) :
    Delivers (s.run labels) (around.queue ++ labels.flatMap Label.pushed) := by
  have hl := launched_of_running hs
  constructor
  · obtain ⟨taken, hq, hover⟩ := run_takes s labels
    refine ⟨taken, by rw [← hq, hl.queue_eq], ?_⟩
    rw [hover]
    simp [handedOver, hl.record_eq, Act.received?]
  · have hto : HandsToWorkers (s.run labels) := by
      refine run_invariant ?_ (fun t l h => h.step l) labels
      intro e he r hr
      rw [hl.record_eq, List.mem_singleton] at he
      subst he
      cases hr
    intro e he r hr
    rw [params_run, hl.params_eq, ← hl.length_workers, ← length_workers_run s labels]
    exact hto e he r hr
  · intro w hw
    rw [params_run, hl.params_eq] at hw
    obtain ⟨stage, phase, h⟩ := run_follows hl hw labels
    exact h.callsDelivered
  · intro hstop w hw
    exact abandon_step hstop hw

/-- A response with a message too many that fires the stop signal, and another one that
    is never handed over: the second worker gives up its receive. -/
theorem run_delivers_pair :
    (start .pair { queue :=
        [⟨.messages [⟨some "1", none, none⟩, ⟨some "2", none, none⟩], true⟩,
          ⟨.failed (.receive "late"), false⟩] }).running? =
      some (pair [⟨.messages [⟨some "1", none, none⟩, ⟨some "2", none, none⟩], true⟩,
        ⟨.failed (.receive "late"), false⟩]) ∧
    Delivers
      ((pair [⟨.messages [⟨some "1", none, none⟩, ⟨some "2", none, none⟩], true⟩,
        ⟨.failed (.receive "late"), false⟩]).run
          [.run 0, .run 1, .run 0, .run 1, .run 0, .run 1, .run 0])
      ([⟨.messages [⟨some "1", none, none⟩, ⟨some "2", none, none⟩], true⟩,
        ⟨.failed (.receive "late"), false⟩] ++
          [.run 0, .run 1, .run 0, .run 1, .run 0, .run 1, .run 0].flatMap Label.pushed) ∧
    ((pair [⟨.messages [⟨some "1", none, none⟩, ⟨some "2", none, none⟩], true⟩,
        ⟨.failed (.receive "late"), false⟩]).run
          [.run 0, .run 1, .run 0, .run 1, .run 0, .run 1, .run 0]).queue =
      [⟨.failed (.receive "late"), false⟩] ∧
    ((pair [⟨.messages [⟨some "1", none, none⟩, ⟨some "2", none, none⟩], true⟩,
        ⟨.failed (.receive "late"), false⟩]).run
          [.run 0, .run 1, .run 0, .run 1, .run 0, .run 1, .run 0]).workers =
      [.inTask ⟨some "1", none, none⟩, .leaving] :=
  ⟨rfl, run_delivers (pair_running _) _, by decide, by decide⟩

end Pool

end ConsumerPool
