import ConsumerPool.Proofs.Conservation
import ConsumerPool.Proofs.Joining
import ConsumerPool.Proofs.Senders

/-! # The End of the Error Stream

  A worker can report until it ends, and nobody else can. So the reader is told
  that the channel is disconnected exactly when nothing is unread and every
  worker has ended; who has the pool handle does not matter. From then on the
  pool is `Shut`: the reader gets what is unread, in order, and nothing after
  it. A reader that has closed its end need not wait for the workers. -/

namespace ConsumerPool

variable {w : Nat}

namespace Label

def isRead : Label → Bool
  | .readError => true
  | _ => false

def isDrop : Label → Bool
  | .dropErrors => true
  | _ => false

def endsReader : Label → Bool
  | .closeErrors | .dropErrors => true
  | _ => false

theorem reader_of_actor {l : Label} (hl : l.actor? = some w) :
    l.isRead = false ∧ l.endsReader = false := by
  cases l with
  | run _ | task _ _ | delete _ _ => exact ⟨rfl, rfl⟩
  | push _ | fireStop | advance _ | setTransform _ | readError | closeErrors | dropErrors
  | join | shutdown | dropHandle => simp [actor?] at hl

end Label

/-- The error that the reader gets. -/
def ReadResult.error? : ReadResult → Option PoolError
  | .error e => some e
  | .empty | .disconnected | .gone => none

namespace ErrorChannel

theorem read_fst (ch : ErrorChannel) (senders : Nat) : (ch.read senders).1 =
    if ch.receiver = .gone then ch else { ch with unread := ch.unread.tail } := by
  obtain ⟨capacity, unread, receiver, dropped⟩ := ch
  cases receiver <;> cases unread <;> simp [read]

theorem read_without_error {ch : ErrorChannel} {senders : Nat}
    (h : (ch.read senders).2.error? = none) : (ch.read senders).1 = ch := by
  unfold read at h ⊢
  split
  · rfl
  · next hun hr =>
    simp only [hun] at h
    cases h
  · rfl
  · rfl

theorem read_snd {ch : ErrorChannel} (senders : Nat) (hr : ch.receiver ≠ .gone) :
    (ch.read senders).2 =
      match ch.unread with
      | e :: _ => .error e
      | [] => if ch.receiver = .listening ∧ senders ≠ 0 then .empty else .disconnected := by
  obtain ⟨capacity, unread, receiver, dropped⟩ := ch
  cases receiver with
  | gone => exact absurd rfl hr
  | listening => cases unread <;> cases senders <;> simp [read]
  | closed => cases unread <;> simp [read]

end ErrorChannel

namespace Pool

/-! ### Last acts -/

/-- A turn ends a live worker exactly if one of its acts is a last one. -/
theorem Turn.ended_eq {s : Pool} {l : Label} {phase : Phase} {e : Effect}
    (ht : Turn s w l phase e) :
    e.phase.ended = (phase.ended || e.acts.any Act.isLast) := by
  cases ht with
  | wait _ | noTask _ | noDelete _ => simp [effect]
  | start | call | logFailure | complete | leave =>
    simp only [spoken]
    split <;> rfl
  | @reportTaken _ after _ => cases after <;> rfl
  | @reportDropped _ after _ =>
    simp only [spoken]
    split
    · cases after <;> rfl
    · rfl
  | _ => rfl

theorem run_ended_eq {params : PoolParams} {around : Surroundings} {s : Pool}
    (hl : Launched params around s) (labels : List Label) :
    ∀ phase, (s.run labels).workers[w]? = some phase →
      phase.ended = ((s.run labels).acts w).any Act.isLast := by
  apply run_invariant
    (I := fun t => ∀ phase, t.workers[w]? = some phase →
      phase.ended = (t.acts w).any Act.isLast)
  · intro phase hw
    rw [hl.phase hw, hl.acts_eq_nil]
    rfl
  · intro t l ih phase' hw'
    rcases step_view t l w with ⟨hacts, hphase⟩ | ⟨phase, e, hp, ht, he⟩
    · rw [hacts]
      exact ih phase' (hphase.symm.trans hw')
    · rw [he, phase_apply_self hp, Option.some.injEq] at hw'
      rw [he, acts_apply_self, List.any_append, ← ih phase hp, ← ht.ended_eq, hw']

theorem hasEnded_iff_acts {params : PoolParams} {around : Surroundings} {s : Pool}
    (hl : Launched params around s) (labels : List Label) (hlt : w < params.workerCount) :
    (s.run labels).HasEnded w ↔
      .exited ∈ (s.run labels).acts w ∨ ∃ p, .crashed p ∈ (s.run labels).acts w := by
  have hlen : w < (s.run labels).workers.length := by
    rw [length_workers_run, hl.length_workers]
    exact hlt
  have hw := List.getElem?_eq_getElem hlen
  have hended := run_ended_eq hl labels _ hw
  -- a last act is an exit or a panic
  have hlast : ((s.run labels).acts w).any Act.isLast = true ↔
      .exited ∈ (s.run labels).acts w ∨ ∃ p, .crashed p ∈ (s.run labels).acts w := by
    rw [List.any_eq_true]
    constructor
    · rintro ⟨a, hmem, ha⟩
      cases a with
      | exited => exact .inl hmem
      | crashed p => exact .inr ⟨p, hmem⟩
      | _ => cases ha
    · rintro (hmem | ⟨p, hmem⟩)
      · exact ⟨_, hmem, rfl⟩
      · exact ⟨_, hmem, rfl⟩
  rw [← hlast, ← hended]
  constructor
  · rintro ⟨phase, hw', h⟩
    obtain rfl := Option.some.inj (hw.symm.trans hw')
    exact h
  · exact fun h => ⟨_, hw, h⟩

theorem isFinished_iff_hasEnded (s : Pool) :
    s.isFinished = true ↔ ∀ w < s.workers.length, s.HasEnded w := by
  constructor
  · exact fun h w hlt => hasEnded_of_finished h hlt
  · intro h
    rw [isFinished_iff]
    intro w hlive
    have hlt := (s.isLive_or_hasEnded_iff w).mp (.inl hlive)
    exact (h w hlt).not_isLive hlive

theorem not_finished_iff (s : Pool) :
    ¬ s.isFinished = true ↔ ∃ w < s.workers.length, s.IsLive w := by
  rw [isFinished_iff, not_forall]
  constructor
  · rintro ⟨w, hno⟩
    have hlive : s.IsLive w := not_not.mp hno
    have hlt : w < s.workers.length := (s.isLive_or_hasEnded_iff w).mp (.inl hlive)
    exact ⟨w, hlt, hlive⟩
  · rintro ⟨w, -, hlive⟩
    exact ⟨w, fun hno => hno hlive⟩

theorem OneSenderEach.eq_zero_iff {s : Pool} (h : s.OneSenderEach) :
    s.senders = 0 ↔ s.isFinished = true := by
  rw [OneSenderEach] at h
  rw [h, liveCount_eq_zero_iff]

/-! ### What the reader meets -/

/-- What a turn does to the reader's side: the reader's end stays as it is, nothing is
    read, and only a live worker adds an error, while somebody listens. -/
theorem Turn.adds {s : Pool} {l : Label} {phase : Phase} {e : Effect}
    (ht : Turn s w l phase e) :
    e.channel.receiver = s.channel.receiver ∧ e.acts.filterMap Act.read? = [] ∧
      (e.channel.unread = s.channel.unread ∧ e.acts.filterMap Act.accepted? = [] ∨
        s.channel.receiver = .listening ∧ phase.ended = false) := by
  cases ht with
  | start | call | logFailure | complete | leave | reportDropped _ =>
    unfold spoken
    split
    · exact ⟨rfl, rfl, .inl ⟨rfl, rfl⟩⟩
    · exact ⟨rfl, rfl, .inl ⟨rfl, rfl⟩⟩
  | reportTaken hacc => exact ⟨rfl, rfl, .inr ⟨(s.channel.accepts_iff.mp hacc).1, rfl⟩⟩
  | _ => exact ⟨rfl, rfl, .inl ⟨rfl, rfl⟩⟩

/-- What the reader is told by a label. -/
def told (s : Pool) (l : Label) : List ReadResult :=
  if l.isRead then [s.readResult] else []

/-- What the reader is told along a run. -/
def readings (s : Pool) : List Label → List ReadResult
  | [] => []
  | l :: ls => s.told l ++ (s.step l).readings ls

theorem told_of_not_read (s : Pool) {l : Label} (hl : l.isRead = false) : s.told l = [] := by
  simp [told, hl]

/-- A label of the outside that is not about the reader leaves the channel and the
    history alone. -/
theorem step_aside (s : Pool) {l : Label} (hl : l.actor? = none) (hread : l.isRead = false)
    (hends : l.endsReader = false) :
    (s.step l).channel = s.channel ∧ (s.step l).history = s.history := by
  cases l with
  | run _ | task _ _ | delete _ _ => simp [Label.actor?] at hl
  | readError => cases hread
  | closeErrors | dropErrors => cases hends
  | push _ | fireStop | advance _ | setTransform _ | dropHandle => exact ⟨rfl, rfl⟩
  | join =>
    simp only [step, beginJoin]
    split <;> exact ⟨rfl, rfl⟩
  | shutdown =>
    simp only [step, shutdown, beginJoin]
    split
    · split <;> exact ⟨rfl, rfl⟩
    all_goals exact ⟨rfl, rfl⟩

theorem step_readError (s : Pool) :
    (s.step .readError).channel = (s.channel.read s.senders).1 ∧
      (s.step .readError).history =
        s.history ++ s.readResult.error?.toList.map Act.errorRead := by
  rw [readResult]
  show s.readError.channel = _ ∧ s.readError.history = _
  unfold readError
  split
  · next ch e heq =>
    rw [heq]
    exact ⟨rfl, by simp [history, note, ReadResult.error?]⟩
  all_goals
    next ch heq =>
      have hno : (s.channel.read s.senders).2.error? = none := by rw [heq]; rfl
      exact ⟨(ErrorChannel.read_without_error hno).symm, by simp [hno]⟩

/-- What a step adds to the errors that were read is what the reader is told. -/
theorem read_step (s : Pool) (l : Label) : (tally (s.step l).history).read =
    (tally s.history).read ++ (s.told l).filterMap ReadResult.error? := by
  -- where the history stays and the reader does not read, nothing is told
  have hsame {t : Pool} (hhist : t.history = s.history) (hread : l.isRead = false) :
      (tally t.history).read =
        (tally s.history).read ++ (s.told l).filterMap ReadResult.error? := by
    simp [hhist, told_of_not_read s hread]
  cases hl : l.actor? with
  | some v =>
    have hread := (Label.reader_of_actor hl).1
    rcases s.step_of_actor hl with hstep | ⟨phase, e, -, ht, he⟩
    · exact hsame (by rw [hstep]) hread
    · rw [he, history_apply, told_of_not_read s hread]
      simp [tally, ht.adds.2.1]
  | none =>
    by_cases haside : l.isRead = false ∧ l.endsReader = false
    · exact hsame (s.step_aside hl haside.1 haside.2).2 haside.1
    · cases l with
      | readError =>
        rw [s.step_readError.2]
        cases hr : s.readResult.error? with
        | none => simp [told, Label.isRead, hr]
        | some e => simp [tally, told, Label.isRead, hr, Act.read?]
      | closeErrors => exact hsame rfl rfl
      | dropErrors =>
        simp only [step, dropErrors]
        split
        · exact hsame rfl rfl
        all_goals simp [history, note, tally, Act.read?, told, Label.isRead]
      | _ => exact absurd ⟨rfl, rfl⟩ haside

theorem read_run (s : Pool) (labels : List Label) : (tally (s.run labels).history).read =
    (tally s.history).read ++ (s.readings labels).filterMap ReadResult.error? := by
  induction labels generalizing s with
  | nil => simp [readings]
  | cons l ls ih =>
    rw [run_cons, ih, read_step, readings, List.filterMap_append, List.append_assoc]

/-! ### The reader's end -/

theorem receiver_step (s : Pool) {l : Label} (hends : l.endsReader = false) :
    (s.step l).channel.receiver = s.channel.receiver := by
  cases hl : l.actor? with
  | some v =>
    rcases s.step_of_actor hl with hstep | ⟨phase, e, -, ht, he⟩
    · rw [hstep]
    · rw [he]
      exact ht.adds.1
  | none =>
    -- a read takes an error and leaves the end as it is
    by_cases hread : l.isRead = false
    · rw [(s.step_aside hl hread hends).1]
    · cases l with
      | readError =>
        rw [s.step_readError.1, ErrorChannel.read_fst]
        split <;> rfl
      | _ => exact absurd rfl hread

theorem receiver_run (s : Pool) {labels : List Label}
    (h : ∀ l ∈ labels, l.endsReader = false) :
    (s.run labels).channel.receiver = s.channel.receiver := by
  apply run_keeps (I := fun t => t.channel.receiver = s.channel.receiver) _ rfl
  intro l hl t ih
  rw [receiver_step t (h l hl), ih]

theorem started_receiver {params : PoolParams} {around : Surroundings} {s : Pool}
    (h : start params around = .started s) : s.channel.receiver = .listening := by
  unfold start at h
  split at h
  · cases h
  · split at h
    · cases h
    · split at h
      · next s' heq =>
        cases h
        simp only [write, note, spawned, Prod.mk.injEq] at heq
        obtain ⟨rfl, -⟩ := heq
        rfl
      · cases h

/-- A reader's end that does not exist does not come back, and closing keeps it. -/
theorem receiver_gone_iff (s : Pool) {l : Label} (hdrop : l.isDrop = false) :
    (s.step l).channel.receiver = .gone ↔ s.channel.receiver = .gone := by
  by_cases hends : l.endsReader = false
  · rw [receiver_step s hends]
  · cases l with
    | closeErrors =>
      obtain ⟨receiver, heq, hgone⟩ := s.channel.close_eq
      simp only [step, closeErrors, heq]
      exact hgone
    | dropErrors => cases hdrop
    | _ => exact absurd rfl hends

theorem listening_of_step {s : Pool} {l : Label}
    (h : (s.step l).channel.receiver = .listening) : s.channel.receiver = .listening := by
  by_cases hends : l.endsReader = false
  · rwa [receiver_step s hends] at h
  · cases l with
    | closeErrors =>
      simp only [step, closeErrors, ErrorChannel.close] at h
      split at h
      · cases h
      · exact h
      · exact h
    | dropErrors =>
      simp only [step, dropErrors] at h
      split at h
      · exact h
      all_goals cases h
    | _ => exact absurd rfl hends

/-! ### Shut pools -/

/-- Whoever could report has ended, or nobody listens any more. -/
def Shut (s : Pool) : Prop := s.channel.receiver = .listening → s.isFinished = true

/-- A read gives the oldest unread error, whoever is left to report more. -/
theorem readResult_of_unread {s : Pool} (hr : s.channel.receiver ≠ .gone) {e : PoolError}
    {rest : List PoolError} (hun : s.channel.unread = e :: rest) :
    s.readResult = .error e := by
  rw [readResult, ErrorChannel.read_snd s.senders hr, hun]

/-- If there is none, it tells whether the pool is shut. -/
theorem readResult_eq {s : Pool} (hone : s.OneSenderEach) (hr : s.channel.receiver ≠ .gone) :
    (∀ e rest, s.channel.unread = e :: rest → s.readResult = .error e) ∧
    (s.channel.unread = [] → s.Shut → s.readResult = .disconnected) ∧
    (s.channel.unread = [] → ¬ s.Shut → s.readResult = .empty) := by
  have hread := ErrorChannel.read_snd s.senders hr
  have hopen : s.channel.receiver = .listening ∧ s.senders ≠ 0 ↔ ¬ s.Shut := by
    rw [ne_eq, hone.eq_zero_iff, Shut, Classical.not_imp]
  refine ⟨fun e rest hun => readResult_of_unread hr hun, fun hun hshut => ?_,
    fun hun hno => ?_⟩
  · rw [readResult, hread, hun]
    exact if_neg fun h => hopen.mp h hshut
  · rw [readResult, hread, hun]
    exact if_pos (hopen.mpr hno)

theorem readResult_eq_error_iff {s : Pool} (hone : s.OneSenderEach)
    (hr : s.channel.receiver ≠ .gone) (e : PoolError) :
    s.readResult = .error e ↔ s.channel.unread.head? = some e := by
  obtain ⟨hnext, hend, hnone⟩ := readResult_eq hone hr
  cases hun : s.channel.unread with
  | cons e' rest =>
    rw [hnext e' rest hun]
    simp
  | nil =>
    by_cases hshut : s.Shut
    · simp [hend hun hshut]
    · simp [hnone hun hshut]

theorem readResult_eq_disconnected_iff {s : Pool} (hone : s.OneSenderEach)
    (hr : s.channel.receiver ≠ .gone) :
    s.readResult = .disconnected ↔ s.channel.unread = [] ∧ s.Shut := by
  obtain ⟨hnext, hend, hnone⟩ := readResult_eq hone hr
  cases hun : s.channel.unread with
  | cons e' rest =>
    rw [hnext e' rest hun]
    simp
  | nil =>
    by_cases hshut : s.Shut
    · simp [hend hun hshut, hshut]
    · simp [hnone hun hshut, hshut]

theorem readResult_eq_empty_iff {s : Pool} (hone : s.OneSenderEach)
    (hr : s.channel.receiver ≠ .gone) :
    s.readResult = .empty ↔ s.channel.unread = [] ∧ ¬ s.Shut := by
  obtain ⟨hnext, hend, hnone⟩ := readResult_eq hone hr
  cases hun : s.channel.unread with
  | cons e' rest =>
    rw [hnext e' rest hun]
    simp
  | nil =>
    by_cases hshut : s.Shut
    · simp [hend hun hshut, hshut]
    · simp [hnone hun hshut, hshut]

theorem Shut.step {s : Pool} (h : s.Shut) (l : Label) : (s.step l).Shut := by
  intro hlisten
  have hfinished := h (listening_of_step hlisten)
  have hworkers : (s.step l).workers = s.workers := workers_of_finished hfinished [l]
  rw [isFinished, hworkers]
  exact hfinished

theorem Shut.worker {s : Pool} (h : s.Shut) {l : Label} (hl : l.actor? = some w) :
    (s.step l).channel.unread = s.channel.unread ∧
      (tally (s.step l).history).accepted = (tally s.history).accepted := by
  rcases s.step_of_actor hl with hstep | ⟨phase, e, hw, ht, he⟩
  · rw [hstep]
    exact ⟨rfl, rfl⟩
  · rcases ht.adds.2.2 with ⟨hunread, hacc⟩ | ⟨hlisten, hlive⟩
    · rw [he, history_apply]
      exact ⟨hunread, by simp [tally, hacc]⟩
    · -- it would be live, although the pool has finished
      have hnone := (isFinished_iff s).mp (h hlisten) w
      exact absurd ⟨phase, hw, hlive⟩ hnone

theorem Shut.accepted_step {s : Pool} (h : s.Shut) (l : Label) :
    (tally (s.step l).history).accepted = (tally s.history).accepted := by
  cases hl : l.actor? with
  | some v => exact (h.worker hl).2
  | none =>
    obtain ⟨new, hrec, hnew⟩ := (step_outside (s := s) hl).record_eq
    have hnone : new.filterMap (fun event => event.act.accepted?) = [] := by
      refine filterMap_reading (fun a ha => ?_) hnew
      cases a <;> first | rfl | cases ha
    simp only [tally, history, hrec, List.map_append, List.filterMap_append,
      List.filterMap_map, Function.comp_def, hnone, List.append_nil]

theorem Shut.run {s : Pool} (h : s.Shut) (labels : List Label) :
    (s.run labels).Shut ∧
      (tally (s.run labels).history).accepted = (tally s.history).accepted := by
  apply run_invariant
    (I := fun t => t.Shut ∧ (tally t.history).accepted = (tally s.history).accepted) ⟨h, rfl⟩
  intro t l ⟨hshut, hacc⟩
  exact ⟨hshut.step l, (hshut.accepted_step l).trans hacc⟩

/-- A label takes the oldest unread error of a pool that is shut, if the reader reads, or
    nothing. -/
theorem Shut.unread_step {s : Pool} (h : s.Shut) (hr : s.channel.receiver ≠ .gone)
    {l : Label} (hdrop : l.isDrop = false) : (s.step l).channel.unread =
      if l.isRead then s.channel.unread.tail else s.channel.unread := by
  cases hl : l.actor? with
  | some v =>
    -- no worker adds an error any more
    rw [(Label.reader_of_actor hl).1, (h.worker hl).1]
    rfl
  | none =>
    cases l with
    | readError =>
      rw [s.step_readError.1, ErrorChannel.read_fst, if_neg hr]
      rfl
    | closeErrors =>
      obtain ⟨receiver, heq, -⟩ := s.channel.close_eq
      show s.channel.close.unread = _
      rw [heq]
      rfl
    | dropErrors => cases hdrop
    | run _ | task _ _ | delete _ _ => simp [Label.actor?] at hl
    | _ => rw [(s.step_aside hl rfl rfl).1]; rfl

/-- **Draining.** The reader of a pool that is shut gets the unread errors, in order, and
    then it is told that the channel is disconnected, whatever else happens. -/
theorem Shut.readings_eq {s : Pool} (h : s.Shut) (hone : s.OneSenderEach)
    (hr : s.channel.receiver ≠ .gone) {labels : List Label}
    (hkeep : ∀ l ∈ labels, l.isDrop = false) :
    s.readings labels =
      (s.channel.unread.take (labels.countP Label.isRead)).map .error ++
        List.replicate (labels.countP Label.isRead - s.channel.unread.length)
          .disconnected := by
  induction labels generalizing s with
  | nil => simp [readings]
  | cons l ls ih =>
    have hdrop : l.isDrop = false := hkeep l List.mem_cons_self
    have hr' : (s.step l).channel.receiver ≠ .gone := mt (receiver_gone_iff s hdrop).mp hr
    have hrest := ih (h.step l) (hone.step l) hr' fun m hm => hkeep m (List.mem_cons_of_mem l hm)
    -- each read takes one error off, or tells that there are no more
    obtain ⟨hnext, hend, -⟩ := readResult_eq hone hr
    rw [readings, hrest, h.unread_step hr hdrop, told]
    cases hread : l.isRead with
    | false => simp [hread]
    | true =>
      cases hun : s.channel.unread with
      | nil => simp [hread, hend hun h, List.replicate_succ]
      | cons e rest => simp [hread, hnext e rest hun]

/-- After the end of the stream, or without the reader's end, no error is read. -/
theorem readings_over {s : Pool} {labels : List Label} (hone : s.OneSenderEach)
    (h : s.channel.receiver = .gone ∨ s.Shut ∧ s.channel.unread = []) :
    ∀ r ∈ s.readings labels, r = .disconnected ∨ r = .gone := by
  induction labels generalizing s with
  | nil => simp [readings]
  | cons l ls ih =>
    -- either state is kept by every label: dropping the end leads from the one to the other
    have hnext : (s.step l).channel.receiver = .gone ∨
        (s.step l).Shut ∧ (s.step l).channel.unread = [] := by
      by_cases hdrop : l.isDrop = false
      · rcases h with hgone | ⟨hshut, hun⟩
        · exact .inl ((receiver_gone_iff s hdrop).mpr hgone)
        · by_cases hgone : s.channel.receiver = .gone
          · exact .inl ((receiver_gone_iff s hdrop).mpr hgone)
          · refine .inr ⟨hshut.step l, ?_⟩
            rw [hshut.unread_step hgone hdrop, hun]
            split <;> rfl
      · cases l with
        | dropErrors =>
          left
          simp only [step, dropErrors]
          split
          · assumption
          all_goals rfl
        | _ => exact absurd rfl hdrop
    have hnow : s.readResult = .disconnected ∨ s.readResult = .gone := by
      by_cases hgone : s.channel.receiver = .gone
      · exact .inr (by simp [readResult, ErrorChannel.read, hgone])
      · rcases h with h | ⟨hshut, hun⟩
        · exact absurd h hgone
        · exact .inl ((readResult_eq_disconnected_iff hone hgone).mpr ⟨hun, hshut⟩)
    intro r hmem
    rw [readings, List.mem_append] at hmem
    rcases hmem with hmem | hmem
    · simp only [told] at hmem
      split at hmem
      · rwa [List.mem_singleton.mp hmem]
      · cases hmem
    · exact ih (hone.step l) hnext r hmem

/-! ### The guarantee -/

/-- The errors that were accepted and not read, by the record. -/
def unclaimed (s : Pool) : List PoolError :=
  (tally s.history).accepted.drop (tally s.history).read.length

/-- While the reader's end exists, these are the unread ones. -/
theorem unclaimed_eq {c : Nat} {s : Pool}
    (hk : ErrorChannel.Kept c (tally s.history) s.channel)
    (hr : s.channel.receiver ≠ .gone) :
    s.unclaimed = s.channel.unread ∧
      (tally s.history).accepted = (tally s.history).read ++ s.unclaimed := by
  have hcons := hk.conserved
  rw [hk.undiscarded hr, List.nil_append] at hcons
  have hun : s.unclaimed = s.channel.unread := by
    rw [unclaimed, hcons, List.drop_left]
  exact ⟨hun, by rw [hun]; exact hcons⟩

/-- How the error stream of a pool ends. -/
structure EndsErrors (params : PoolParams) (s : Pool) : Prop where
  /-- The workers that have ended are those that have exited or panicked. -/
  ended : ∀ w < params.workerCount,
    s.HasEnded w ↔ .exited ∈ s.acts w ∨ ∃ p, .crashed p ∈ s.acts w
  /-- As long as nobody closes or drops the reader's end, it stays as it is. -/
  reader : ∀ labels, (∀ l ∈ labels, l.endsReader = false) →
    (s.run labels).channel.receiver = s.channel.receiver
  /-- What is unread is what was accepted and not read, in order. -/
  unread : s.channel.receiver ≠ .gone → s.channel.unread = s.unclaimed ∧
    (tally s.history).accepted = (tally s.history).read ++ s.unclaimed
  /-- What was read is what the reader was told. -/
  told : ∀ labels, (tally (s.run labels).history).read =
    (tally s.history).read ++ (s.readings labels).filterMap ReadResult.error?
  /-- A read gives the oldest of the errors accepted and not read. -/
  next : s.channel.receiver ≠ .gone →
    ∀ e, s.readResult = .error e ↔ s.unclaimed.head? = some e
  /-- A reader that listens is told that the channel is disconnected exactly when there
      is none and every worker has ended. -/
  disconnected : s.channel.receiver = .listening → (s.readResult = .disconnected ↔
    s.unclaimed = [] ∧ ∀ w < params.workerCount, s.HasEnded w)
  /-- It is told that the channel is empty exactly when there is none and some worker is
      live. -/
  empty : s.channel.receiver = .listening → (s.readResult = .empty ↔
    s.unclaimed = [] ∧ ∃ w < params.workerCount, s.IsLive w)
  /-- A reader that has closed its end is told that the channel is disconnected as soon as
      there is none. -/
  closed : s.channel.receiver = .closed →
    (s.readResult = .disconnected ↔ s.unclaimed = []) ∧ s.readResult ≠ .empty
  /-- There are as many senders of the channel as workers that have not ended. -/
  senders : s.senders = s.liveCount
  /-- It does not matter who has the handle. -/
  handle : (∀ handle, { s with handle }.readResult = s.readResult) ∧
    ∀ l, (l = .join ∨ l = .shutdown ∨ l = .dropHandle) →
      (s.step l).readResult = s.readResult
  /-- After the last worker has ended, or the reader has closed its end, no error is
      accepted any more, whatever happens. -/
  lastAccepted : s.joinStatus ≠ .pending ∨ s.channel.receiver = .closed → ∀ labels,
    (tally (s.run labels).history).accepted = (tally s.history).accepted
  /-- From then on the reader, unless it drops its end, gets all errors accepted and not
      read, in order, and is told that the channel is disconnected when there is none. -/
  drains : s.joinStatus ≠ .pending ∨ s.channel.receiver = .closed →
    s.channel.receiver ≠ .gone → ∀ labels, (∀ l ∈ labels, l.isDrop = false) →
    s.readings labels = (s.unclaimed.take (labels.countP Label.isRead)).map .error ++
      List.replicate (labels.countP Label.isRead - s.unclaimed.length) .disconnected
  /-- A reader that was told so is never told of an error again. -/
  noMore : s.readResult = .disconnected → ∀ labels e, .error e ∉ s.readings labels

/-- **The end of the error stream.** A start that succeeds hands over a reader that
    listens as long as nobody closes or drops its end. In every run of every pool that a
    start leaves, the stream ends with the last worker, after all accepted errors. -/
theorem run_endsErrors {params : PoolParams} {around : Surroundings} {s : Pool}
    (hs : (start params around).running? = some s) (labels : List Label) :
    (start params around = .started s → (∀ l ∈ labels, l.endsReader = false) →
      (s.run labels).channel.receiver = .listening) ∧
    EndsErrors params (s.run labels) := by
  have hl := launched_of_running hs
  have hk := run_kept hl labels
  have hone := run_oneSenderEach hl labels
  have hended : ∀ w < params.workerCount, (s.run labels).HasEnded w ↔
      .exited ∈ (s.run labels).acts w ∨ ∃ p, .crashed p ∈ (s.run labels).acts w :=
    fun w hlt => hasEnded_iff_acts hl labels hlt
  have hcount : (s.run labels).workers.length = params.workerCount := by
    rw [length_workers_run, hl.length_workers]
  refine ⟨fun hstarted hkeep => ?_, ?_⟩
  · rw [receiver_run s hkeep]
    exact started_receiver hstarted
  -- the rest is about the pool that the run has come to and what runs from there
  generalize s.run labels = t at hk hone hended hcount
  have hun (hr : t.channel.receiver ≠ .gone) := unclaimed_eq hk hr
  have hlistens (h : t.channel.receiver = .listening) : t.channel.receiver ≠ .gone := by
    simp [h]
  have hcloses (h : t.channel.receiver = .closed) : t.channel.receiver ≠ .gone := by
    simp [h]
  have hfinished : t.isFinished = true ↔ ∀ w < params.workerCount, t.HasEnded w := by
    rw [← hcount]
    exact t.isFinished_iff_hasEnded
  have hshut (h : t.joinStatus ≠ .pending ∨ t.channel.receiver = .closed) : t.Shut := by
    intro hlisten
    rcases h with hover | hclosed
    · rwa [ne_eq, joinStatus_eq_pending_iff, Bool.not_eq_false] at hover
    · rw [hlisten] at hclosed
      cases hclosed
  constructor
  case ended => exact hended
  case reader => exact fun later hkeep => receiver_run t hkeep
  case unread => exact fun hr => ⟨(hun hr).1.symm, (hun hr).2⟩
  case told => exact t.read_run
  case next =>
    intro hr e
    rw [(hun hr).1]
    exact readResult_eq_error_iff hone hr e
  case disconnected =>
    intro hlisten
    have hopen : t.Shut ↔ t.isFinished = true := ⟨fun h => h hlisten, fun h _ => h⟩
    rw [readResult_eq_disconnected_iff hone (hlistens hlisten), (hun (hlistens hlisten)).1,
      hopen, hfinished]
  case empty =>
    intro hlisten
    have hopen : t.Shut ↔ t.isFinished = true := ⟨fun h => h hlisten, fun h _ => h⟩
    rw [readResult_eq_empty_iff hone (hlistens hlisten), (hun (hlistens hlisten)).1, hopen,
      not_finished_iff, hcount]
  case closed =>
    intro hclosed
    have hr := hcloses hclosed
    have ht : t.Shut := hshut (.inr hclosed)
    rw [readResult_eq_disconnected_iff hone hr, ne_eq, readResult_eq_empty_iff hone hr,
      (hun hr).1]
    exact ⟨⟨fun h => h.1, fun h => ⟨h, ht⟩⟩, fun h => h.2 ht⟩
  case senders => exact hone
  case handle =>
    refine ⟨fun _ => rfl, fun l hl => ?_⟩
    have haside : l.actor? = none ∧ l.isRead = false ∧ l.endsReader = false := by
      rcases hl with rfl | rfl | rfl <;> exact ⟨rfl, rfl, rfl⟩
    have hch := (t.step_aside haside.1 haside.2.1 haside.2.2).1
    rw [readResult, readResult, hch, (step_outside haside.1).senders_eq]
  case lastAccepted => exact fun h later => ((hshut h).run later).2
  case drains =>
    intro h hr later hkeep
    rw [(hun hr).1]
    exact (hshut h).readings_eq hone hr hkeep
  case noMore =>
    intro hend later e hmem
    have hover : t.channel.receiver = .gone ∨ t.Shut ∧ t.channel.unread = [] := by
      by_cases hr : t.channel.receiver = .gone
      · exact .inl hr
      · obtain ⟨hnone, ht⟩ := (readResult_eq_disconnected_iff hone hr).mp hend
        exact .inr ⟨ht, hnone⟩
    rcases readings_over hone hover _ hmem with h | h <;> cases h

def failAndPanic : List Response :=
  [⟨.failed (.receive "1"), false⟩, ⟨.panicked (.text "lost"), false⟩]

/-- The first worker reports its failure, and the second one ends by the panic. -/
def leaveOneError : List Label := [.run 0, .run 1, .run 0, .run 1, .run 0, .run 1, .run 0]

/-- The error of the first worker can be read after the pool has finished, and then the
    stream is at its end; before, there is only nothing to read. A reader that closes its
    end reads the error too, and is at the end of the stream while a worker is live. -/
theorem run_endsErrors_pair :
    (start .pair { queue := failAndPanic }).running? = some (pair failAndPanic) ∧
    EndsErrors .pair ((pair failAndPanic).run leaveOneError) ∧
    ((pair failAndPanic).run leaveOneError).workers = [.idling, .crashed (.text "lost")] ∧
    ((pair failAndPanic).run leaveOneError).channel.receiver = .listening ∧
    ((pair failAndPanic).run leaveOneError).readings
      [.readError, .dropHandle, .readError, .fireStop, .run 0, .run 0, .run 0,
        .readError] =
      [.error (.receive "1"), .empty, .disconnected] ∧
    ((pair failAndPanic).run leaveOneError).readings
      [.join, .fireStop, .run 0, .run 0, .run 0, .readError, .readError, .readError] =
      [.error (.receive "1"), .disconnected, .disconnected] ∧
    EndsErrors .pair ((pair failAndPanic).run (leaveOneError ++ [.closeErrors])) ∧
    ((pair failAndPanic).run (leaveOneError ++ [.closeErrors])).channel.receiver = .closed ∧
    ((pair failAndPanic).run (leaveOneError ++ [.closeErrors])).senders = 1 ∧
    ((pair failAndPanic).run (leaveOneError ++ [.closeErrors])).readings
      [.readError, .readError] = [.error (.receive "1"), .disconnected] := by
  have hends := run_endsErrors (pair_running failAndPanic) leaveOneError
  -- the pool was started, and nobody has touched the reader's end
  have hlisten := hends.1 rfl (by decide)
  have hclosed := (run_endsErrors (pair_running failAndPanic) (leaveOneError ++ [.closeErrors])).2
  exact ⟨rfl, hends.2, by decide, hlisten, by decide, by decide, hclosed, by decide,
    by decide, by decide⟩

end Pool

end ConsumerPool
