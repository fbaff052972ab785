import ConsumerPool.Proofs.Turn

/-! # Conservation of Errors

  Every error that is reported is taken by the channel or counted as dropped,
  and every error taken is read, discarded with the reader's end, or still
  unread, in the order of the reports. The history of a pool is what all have
  done; `Moves` lists what a step can do to the channel and adds to it. -/

namespace ConsumerPool

/-! ### What acts say about errors -/

namespace Act

def accepted? : Act → Option PoolError
  | .reported e true => some e
  | _ => none

/-- The error that is reported and not taken. -/
def rejected? : Act → Option PoolError
  | .reported e false => some e
  | _ => none

def read? : Act → Option PoolError
  | .errorRead e => some e
  | _ => none

def discarded : Act → List PoolError
  | .errorsDiscarded es => es
  | _ => []

/-- The error of a line about a dropped one. -/
def dropLine? : Act → Option PoolError
  | .logged (.errorDropped e) => some e
  | _ => none

/-- Whether an act is about the error channel. -/
def onErrors : Act → Bool
  | .reported _ _ | .errorRead _ | .errorsDiscarded _ | .logged (.errorDropped _) => true
  | _ => false

end Act

/-! ### Tallies -/

/-- What a history says about errors, in order. -/
structure Tally where
  accepted : List PoolError := []
  rejected : List PoolError := []
  spoken : List PoolError := []
  read : List PoolError := []
  discarded : List PoolError := []

def tally (history : List Act) : Tally :=
  { accepted := history.filterMap Act.accepted?
    rejected := history.filterMap Act.rejected?
    spoken := history.filterMap Act.dropLine?
    read := history.filterMap Act.read?
    discarded := history.flatMap Act.discarded }

/-- One tally after another. -/
def Tally.add (a b : Tally) : Tally :=
  { accepted := a.accepted ++ b.accepted
    rejected := a.rejected ++ b.rejected
    spoken := a.spoken ++ b.spoken
    read := a.read ++ b.read
    discarded := a.discarded ++ b.discarded }

@[simp] theorem Tally.add_none (t : Tally) : t.add {} = t := by
  simp [Tally.add]

theorem tally_append (xs ys : List Act) : tally (xs ++ ys) = (tally xs).add (tally ys) := by
  simp [tally, Tally.add]

theorem tally_cons_off {a : Act} (h : a.onErrors = false) (acts : List Act) :
    tally (a :: acts) = tally acts := by
  cases a with
  | reported _ _ | errorRead _ | errorsDiscarded _ => cases h
  | logged line =>
    cases line with
    | errorDropped _ => cases h
    | _ => rfl
  | _ => rfl

/-- No act of a list is about the error channel. -/
def Off (acts : List Act) : Prop := ∀ a ∈ acts, a.onErrors = false

theorem Off.tally {acts : List Act} (h : Off acts) : tally acts = {} := by
  induction acts with
  | nil => rfl
  | cons a acts ih =>
    rw [tally_cons_off (h a List.mem_cons_self)]
    exact ih fun x hx => h x (List.mem_cons_of_mem a hx)

theorem Off.not_reported {acts : List Act} (h : Off acts) (e : PoolError) (taken : Bool) :
    .reported e taken ∉ acts := fun hmem => by cases h _ hmem

theorem length_reports (history : List Act) :
    (history.filterMap Act.report?).length =
      (tally history).accepted.length + (tally history).rejected.length := by
  induction history with
  | nil => rfl
  | cons a acts ih =>
    have ha : a.report?.toList.length =
        (tally [a]).accepted.length + (tally [a]).rejected.length := by
      cases a with
      | reported e taken => cases taken <;> rfl
      | _ => rfl
    have hcons : tally (a :: acts) = (tally [a]).add (tally acts) := tally_append [a] acts
    rw [filterMap_cons_eq, List.length_append, ih, ha, hcons]
    simp only [Tally.add, List.length_append]
    omega

/-! ### Moves of the channel -/

namespace ErrorChannel

/-- What a step does to an error channel, with the acts it adds to the history. -/
inductive Moves (ch : ErrorChannel) : List Act → ErrorChannel → Prop where
  | rest {acts} : Off acts → Moves ch acts ch
  | take {e} : ch.accepts = true →
      Moves ch [.reported e true] { ch with unread := ch.unread ++ [e] }
  | reject {e acts} : ch.accepts = false → Off acts →
      Moves ch (.reported e false :: .logged (.errorDropped e) :: acts)
        { ch with dropped := ch.dropped + 1 }
  | read {e rest} : ch.receiver ≠ .gone → ch.unread = e :: rest →
      Moves ch [.errorRead e] { ch with unread := rest }
  | close : Moves ch [] ch.close
  | drop : ch.receiver ≠ .gone → Moves ch [.errorsDiscarded ch.unread] ch.drop

theorem close_eq (ch : ErrorChannel) : ∃ receiver, ch.close = { ch with receiver } ∧
    (receiver = .gone ↔ ch.receiver = .gone) := by
  unfold close
  split
  · next h => exact ⟨.closed, rfl, by simp [h]⟩
  · exact ⟨ch.receiver, rfl, Iff.rfl⟩
  · exact ⟨ch.receiver, rfl, Iff.rfl⟩

/-- The invariant of an error channel of a capacity with the tally of its history. -/
structure Kept (capacity : Nat) (t : Tally) (ch : ErrorChannel) : Prop where
  capacity_eq : ch.capacity = capacity
  bounded : ch.unread.length ≤ capacity
  /-- What was taken is read, discarded or unread, in order. -/
  conserved : t.accepted = t.read ++ (t.discarded ++ ch.unread)
  /-- Nothing is discarded as long as the reader's end exists. -/
  undiscarded : ch.receiver ≠ .gone → t.discarded = []
  /-- Nothing is unread without it. -/
  emptied : ch.receiver = .gone → ch.unread = []
  counted : ch.dropped = UInt64.ofNat t.rejected.length
  /-- Each error that is not taken is spoken, as it was. -/
  spoken : t.spoken = t.rejected

theorem accepts_iff (ch : ErrorChannel) :
    ch.accepts = true ↔ ch.receiver = .listening ∧ ch.unread.length < ch.capacity := by
  simp [accepts]

theorem Kept.accepts_false_iff {c : Nat} {t : Tally} {ch : ErrorChannel}
    (h : Kept c t ch) :
    ch.accepts = false ↔ ch.unread.length = c ∨ ch.receiver ≠ .listening := by
  rw [← Bool.not_eq_true, accepts_iff, h.capacity_eq, not_and, Nat.not_lt]
  have hle := h.bounded
  constructor
  · intro hfull
    by_cases hr : ch.receiver = .listening
    · exact .inl (Nat.le_antisymm hle (hfull hr))
    · exact .inr hr
  · rintro (hfull | hr) hr'
    · exact Nat.le_of_eq hfull.symm
    · exact absurd hr' hr

theorem Kept.moves {c : Nat} {t : Tally} {acts : List Act} {ch ch' : ErrorChannel}
    (h : Kept c t ch) (hm : ch.Moves acts ch') : Kept c (t.add (tally acts)) ch' := by
  obtain ⟨hcap, hle, hcons, hundis, hempty, hcount, hspoken⟩ := h
  cases hm with
  | rest hoff =>
    rw [hoff.tally, Tally.add_none]
    exact ⟨hcap, hle, hcons, hundis, hempty, hcount, hspoken⟩
  | @take e hacc =>
    obtain ⟨hr, hlt⟩ := ch.accepts_iff.mp hacc
    have htally : tally [.reported e true] = { accepted := [e] } := rfl
    rw [htally]
    constructor
    case conserved => simp [Tally.add, hcons]
    case bounded =>
      rw [List.length_append]
      exact hcap ▸ hlt
    case emptied => exact fun hgone => absurd (hr.symm.trans hgone) (by simp)
    all_goals simpa [Tally.add]
  | @reject e acts hacc hoff =>
    have htally : tally (.reported e false :: .logged (.errorDropped e) :: acts) =
        { rejected := [e], spoken := [e] } := by
      have hadd := tally_append [.reported e false, .logged (.errorDropped e)] acts
      rw [hoff.tally, Tally.add_none] at hadd
      exact hadd
    rw [htally]
    constructor
    case counted => simp [Tally.add, hcount]
    all_goals simpa [Tally.add]
  | @read e rest hr hun =>
    have htally : tally [.errorRead e] = { read := [e] } := rfl
    -- so the error read goes to the end of those read before
    have hdis := hundis hr
    rw [hun] at hcons hle
    rw [htally]
    constructor
    case conserved => simp [Tally.add, hcons, hdis]
    case bounded => exact Nat.le_of_succ_le hle
    case emptied => exact fun hgone => absurd hgone hr
    all_goals simpa [Tally.add]
  | close =>
    obtain ⟨receiver, heq, hgone⟩ := ch.close_eq
    have htally : tally [] = {} := rfl
    rw [heq, htally, Tally.add_none]
    exact ⟨hcap, hle, hcons, fun hr => hundis (mt hgone.mpr hr),
      fun hr => hempty (hgone.mp hr), hcount, hspoken⟩
  | drop hr =>
    have htally : tally [.errorsDiscarded ch.unread] = { discarded := ch.unread } := by
      simp [tally, Act.discarded, Act.accepted?, Act.rejected?, Act.dropLine?, Act.read?]
    have hdis := hundis hr
    rw [htally]
    constructor
    case conserved => simp [ErrorChannel.drop, Tally.add, hcons, hdis]
    case bounded => exact Nat.zero_le c
    case undiscarded => exact fun hr' => absurd rfl hr'
    case emptied => exact fun _ => rfl
    all_goals simpa [ErrorChannel.drop, Tally.add]

/-- A move with a report that is not taken counts it and speaks it. -/
theorem Moves.of_rejected {ch ch' : ErrorChannel} {acts : List Act} {e : PoolError}
    (hm : ch.Moves acts ch') (h : .reported e false ∈ acts) :
    ch.accepts = false ∧ ch' = { ch with dropped := ch.dropped + 1 } ∧
      .logged (.errorDropped e) ∈ acts := by
  cases hm with
  | rest hoff => exact absurd h (hoff.not_reported e _)
  | reject hacc hoff =>
    obtain rfl : e = _ := by simpa [hoff.not_reported] using h
    exact ⟨hacc, rfl, by simp⟩
  | take _ | read _ _ | close | drop _ => simp at h

/-- A move with a report that is taken adds the error behind the unread ones. -/
theorem Moves.of_accepted {ch ch' : ErrorChannel} {acts : List Act} {e : PoolError}
    (hm : ch.Moves acts ch') (h : .reported e true ∈ acts) :
    ch.accepts = true ∧ ch' = { ch with unread := ch.unread ++ [e] } := by
  cases hm with
  | rest hoff => exact absurd h (hoff.not_reported e _)
  | take hacc =>
    cases List.mem_singleton.mp h
    exact ⟨hacc, rfl⟩
  | reject _ hoff =>
    simp [hoff.not_reported] at h
  | read _ _ | close | drop _ => simp at h

theorem Moves.dropped_eq {ch ch' : ErrorChannel} {acts : List Act}
    (hm : ch.Moves acts ch') (h : ∀ e, .reported e false ∉ acts) :
    ch'.dropped = ch.dropped := by
  cases hm with
  | reject _ _ => exact absurd List.mem_cons_self (h _)
  | close =>
    obtain ⟨receiver, heq, -⟩ := ch.close_eq
    rw [heq]
  | rest _ | take _ | read _ _ | drop _ => rfl

theorem kept_ofCapacity (c : Nat) : Kept c {} (.ofCapacity c) :=
  ⟨rfl, Nat.zero_le c, rfl, fun _ => rfl, fun _ => rfl, rfl, rfl⟩

theorem kept_drop_ofCapacity (c : Nat) : Kept c {} (ErrorChannel.ofCapacity c).drop :=
  ⟨rfl, Nat.zero_le c, rfl, fun _ => rfl, fun _ => rfl, rfl, rfl⟩

/-- What is read is the oldest unread error, from a reader's end that exists. -/
theorem read_error {ch ch' : ErrorChannel} {senders : Nat} {e : PoolError}
    (h : ch.read senders = (ch', .error e)) :
    ch.receiver ≠ .gone ∧ ∃ rest, ch.unread = e :: rest ∧ ch' = { ch with unread := rest } := by
  unfold read at h
  split at h
  · cases h
  · next hun hr =>
    cases h
    exact ⟨hr, _, hun, rfl⟩
  · cases h
  · split at h <;> cases h

end ErrorChannel

namespace Pool

/-! ### Steps move the channel -/

/-- What all have done, in order. -/
def history (s : Pool) : List Act := s.record.map Event.act

@[simp] theorem history_apply (s : Pool) (w : Nat) (e : Effect) :
    (s.apply w e).history = s.history ++ e.acts := by
  simp [history, Function.comp_def]

/-- What a step adds to the history. -/
def added (s : Pool) (l : Label) : List Act :=
  (s.step l).history.drop s.history.length

/-- A turn makes at most one move of the channel. -/
theorem Turn.moves {s : Pool} {w : Nat} {l : Label} {phase : Phase} {e : Effect}
    (ht : Turn s w l phase e) : s.channel.Moves e.acts e.channel := by
  cases ht with
  | start | call | logFailure | complete | leave =>
    simp only [spoken]
    split
    · exact .rest (by simp [Off, effect, Act.onErrors])
    · exact .rest (by simp [Off, effect, Act.onErrors])
  | reportTaken hacc => exact .take hacc
  | reportDropped hacc =>
    simp only [spoken]
    split
    · exact .reject hacc (by simp [Off])
    · -- the line counts although the logger panics on it
      exact .reject hacc (by simp [Off, Act.onErrors])
  | _ => exact .rest (by simp [Off, effect, Act.onErrors])

theorem step_moves (s : Pool) (l : Label) : ∃ acts,
    (s.step l).history = s.history ++ acts ∧ s.channel.Moves acts (s.step l).channel := by
  -- most steps leave the record and the channel alone
  have hrest {t : Pool} (hrec : t.record = s.record) (hch : t.channel = s.channel) :
      ∃ acts, t.history = s.history ++ acts ∧ s.channel.Moves acts t.channel := by
    refine ⟨[], by simp [history, hrec], ?_⟩
    rw [hch]
    exact .rest (by simp [Off])
  cases stepKind s l with
  | absent _ hsame =>
    rw [hsame]
    exact hrest rfl rfl
  | @turn _ _ e _ _ ht he =>
    rw [he]
    exact ⟨e.acts, history_apply s _ e, ht.moves⟩
  | outside hl _ =>
    cases l with
    | run _ | task _ _ | delete _ _ => simp [Label.actor?] at hl
    | push _ | fireStop | advance _ | setTransform _ | dropHandle => exact hrest rfl rfl
    | join =>
      simp only [step, beginJoin]
      split <;> exact hrest rfl rfl
    | shutdown =>
      simp only [step, shutdown]
      split
      · simp only [beginJoin, fireStop]
        split <;> exact hrest rfl rfl
      all_goals exact hrest rfl rfl
    | closeErrors => exact ⟨[], by simp [history, step, closeErrors], .close⟩
    | readError =>
      simp only [step, readError]
      split
      · next ch e heq =>
        obtain ⟨hr, rest, hun, rfl⟩ := ErrorChannel.read_error heq
        exact ⟨[.errorRead e], by simp [history, note], .read hr hun⟩
      all_goals exact hrest rfl rfl
    | dropErrors =>
      simp only [step, dropErrors]
      split
      · exact hrest rfl rfl
      all_goals
        next hr =>
          exact ⟨[.errorsDiscarded s.channel.unread], by simp [history, note],
            .drop (by simp [hr])⟩

theorem history_step (s : Pool) (l : Label) :
    (s.step l).history = s.history ++ s.added l := by
  obtain ⟨acts, hhist, -⟩ := step_moves s l
  simp [added, hhist]

theorem moves_added (s : Pool) (l : Label) :
    s.channel.Moves (s.added l) (s.step l).channel := by
  obtain ⟨acts, hhist, hm⟩ := step_moves s l
  have hadded : s.added l = acts := by simp [added, hhist]
  rwa [hadded]

/-! ### The guarantee -/

/-- The channel of a pool keeps the invariant in every run. -/
theorem run_kept {params : PoolParams} {around : Surroundings} {s : Pool}
    (hs : Launched params around s) (labels : List Label) :
    ErrorChannel.Kept params.errorCapacity (tally (s.run labels).history)
      (s.run labels).channel := by
  apply run_invariant
    (I := fun t => ErrorChannel.Kept params.errorCapacity (tally t.history) t.channel)
  · -- the line of the start is about no error
    have htally : tally s.history = {} := by
      rw [history, hs.record_eq]
      rfl
    rw [htally]
    rcases hs.channel_eq with hch | hch <;> rw [hch]
    · exact ErrorChannel.kept_ofCapacity _
    · exact ErrorChannel.kept_drop_ofCapacity _
  · intro t l h
    rw [history_step, tally_append]
    exact h.moves (moves_added t l)

/-- Whether the channel is full, or the reader takes no more errors. -/
def Unavailable (s : Pool) : Prop :=
  s.channel.unread.length = s.params.errorCapacity ∨ s.channel.receiver ≠ .listening

/-- Where the errors are that the workers of a pool have reported. -/
structure ConservesErrors (s : Pool) : Prop where
  /-- No more errors are unread than the pool was started with room for. -/
  bounded : s.channel.unread.length ≤ s.params.errorCapacity
  /-- A report hands the error back, as it is, exactly if the channel is unavailable. -/
  handedBack : ∀ e, (s.Unavailable → (s.channel.report e).2 = some e) ∧
    (¬ s.Unavailable → (s.channel.report e).2 = none)
  /-- A step rejects a report only then; it counts and speaks the error. -/
  rejects : ∀ l e, .reported e false ∈ s.added l → s.Unavailable ∧
    (s.step l).channel = { s.channel with dropped := s.channel.dropped + 1 } ∧
    .logged (.errorDropped e) ∈ s.added l
  /-- A step takes a report only else; the error is unread then, behind the others. -/
  takes : ∀ l e, .reported e true ∈ s.added l → ¬ s.Unavailable ∧
    (s.step l).channel = { s.channel with unread := s.channel.unread ++ [e] }
  /-- Nothing else touches the counter. -/
  steady : ∀ l, (∀ e, .reported e false ∉ s.added l) →
    (s.step l).droppedErrors = s.droppedErrors
  /-- The errors that were taken are those read, discarded and unread, in order. -/
  conserved : (tally s.history).accepted = (tally s.history).read ++
    ((tally s.history).discarded ++ s.channel.unread)
  /-- Errors are discarded only with the reader's end, and then all that are unread. -/
  discards : (s.channel.receiver ≠ .gone → (tally s.history).discarded = []) ∧
    (s.channel.receiver = .gone → s.channel.unread = [])
  /-- As long as the reader's end exists, also closed, the unread errors can be read. -/
  readable : s.channel.receiver ≠ .gone → ∀ e rest, s.channel.unread = e :: rest →
    s.readResult = .error e ∧ (s.step .readError).channel.unread = rest
  /-- Closing keeps them. -/
  closing : (s.step .closeErrors).channel.unread = s.channel.unread ∧
    (s.channel.receiver ≠ .gone → (s.step .closeErrors).channel.receiver ≠ .gone)
  /-- Each rejected error has its line, as it was, in order. -/
  spoken : (tally s.history).spoken = (tally s.history).rejected
  /-- The counter shows how many lines about dropped errors the logger was given. -/
  counted : s.droppedErrors = UInt64.ofNat (tally s.history).spoken.length
  /-- The reports are those read, unread, discarded and dropped. -/
  total : UInt64.ofNat (s.history.filterMap Act.report?).length =
    UInt64.ofNat ((tally s.history).read.length + s.channel.unread.length +
      (tally s.history).discarded.length) + s.droppedErrors

/-- **Conservation of errors.** In every run of every pool that a start leaves, also one
    whose logger panics, every error reported is read, unread, discarded or counted. -/
theorem run_conservesErrors {params : PoolParams} {around : Surroundings} {s : Pool}
    (hs : (start params around).running? = some s) (labels : List Label) :
    ConservesErrors (s.run labels) := by
  have hl := launched_of_running hs
  have hk := run_kept hl labels
  -- all is about the state reached; how it was reached is in `hk`
  generalize ht : s.run labels = t at hk
  have hparams : t.params = params := by rw [← ht, params_run, hl.params_eq]
  have hun : t.channel.accepts = false ↔ t.Unavailable := by
    rw [Unavailable, hparams]
    exact hk.accepts_false_iff
  constructor
  case bounded => rw [hparams]; exact hk.bounded
  case handedBack =>
    intro e
    rw [← hun]
    cases hacc : t.channel.accepts <;> simp [ErrorChannel.report, hacc]
  case rejects =>
    intro l e he
    obtain ⟨hacc, hch, hline⟩ := (moves_added t l).of_rejected he
    exact ⟨hun.mp hacc, hch, hline⟩
  case takes =>
    intro l e he
    obtain ⟨hacc, hch⟩ := (moves_added t l).of_accepted he
    exact ⟨by rw [← hun, hacc]; simp, hch⟩
  case steady => exact fun l h => (moves_added t l).dropped_eq h
  case conserved => exact hk.conserved
  case discards => exact ⟨hk.undiscarded, hk.emptied⟩
  case readable =>
    intro hr e rest hunread
    have hread : t.channel.read t.senders = ({ t.channel with unread := rest }, .error e) := by
      cases hrec : t.channel.receiver <;> simp_all [ErrorChannel.read]
    exact ⟨by rw [readResult, hread], by simp [step, readError, hread, note]⟩
  case closing =>
    obtain ⟨receiver, heq, hgone⟩ := t.channel.close_eq
    simp only [step, closeErrors, heq, true_and]
    exact fun hr => mt hgone.mp hr
  case spoken => exact hk.spoken
  case counted =>
    rw [hk.spoken]
    exact hk.counted
  case total =>
    have hdropped : t.droppedErrors = UInt64.ofNat (tally t.history).rejected.length :=
      hk.counted
    rw [length_reports, UInt64.ofNat_add, hdropped, hk.conserved]
    simp only [List.length_append]
    congr 2
    omega

def fourFailures : List Response :=
  [⟨.failed (.receive "1"), false⟩, ⟨.failed (.receive "2"), false⟩,
    ⟨.failed (.receive "3"), false⟩, ⟨.failed (.receive "4"), false⟩]

/-- Two receives fail while there is room for one error. The reader reads it, and a third
    one finds room; the reader closes its end before the fourth, and drops it then. -/
def readCloseDrop : List Label :=
  [.run 0, .run 0, .run 1, .run 1, .run 0, .run 1, .run 1, .run 0, .readError,
    .run 0, .run 0, .run 0, .run 0, .run 0, .closeErrors,
    .run 1, .run 1, .run 1, .run 1, .run 1, .dropErrors]

/-- Of four errors one is read, one is discarded with the reader's end, and two are
    counted. -/
theorem run_conservesErrors_pair :
    (start .pair { queue := fourFailures }).running? = some (pair fourFailures) ∧
    ConservesErrors ((pair fourFailures).run readCloseDrop) ∧
    ((pair fourFailures).run readCloseDrop).channel =
      { capacity := 1, unread := [], receiver := .gone, dropped := 2 } ∧
    (tally ((pair fourFailures).run readCloseDrop).history).read = [.receive "2"] ∧
    (tally ((pair fourFailures).run readCloseDrop).history).discarded = [.receive "3"] ∧
    ((pair fourFailures).run readCloseDrop).history.filterMap Act.report? =
      [.receive "2", .receive "1", .receive "3", .receive "4"] :=
  ⟨rfl, run_conservesErrors (pair_running _) _, by decide, by decide, by decide, by decide⟩

end Pool

end ConsumerPool
