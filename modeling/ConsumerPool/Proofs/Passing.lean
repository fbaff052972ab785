import ConsumerPool.Proofs.Draining
import ConsumerPool.Proofs.Layers
import ConsumerPool.Proofs.Precedence

/-! # Passing Errors On

  A task may fail with an error of a pool, returned or thrown, and that error may be one of
  layers already. The worker puts one layer around it, with the id of the message, and
  reports it; whatever happens before the report, in the channel and at the reader, the error
  stays as it is. So what is shown for it at the end is what its layers tell. -/

namespace ConsumerPool

variable {w : Nat}

namespace Pool

/-! ### From the task to the report -/

theorem phase_run_of_others (s : Pool) {labels : List Label}
    (h : ∀ l ∈ labels, l.actor? ≠ some w) :
    (s.run labels).workers[w]? = s.workers[w]? := by
  apply run_keeps (I := fun t => t.workers[w]? = s.workers[w]?) _ rfl
  intro l hl t ih
  rcases step_view t l w with ⟨-, hphase⟩ | ⟨phase, e, -, ht, -⟩
  · exact hphase.trans ih
  · exact absurd ht.actor (h l hl)

/-- How a task fails with an error: it returns it, or it throws it where no transform is in
    force. -/
inductive FailsWith (s : Pool) (source : TaskError) : Outcome TaskError Thrown → Prop where
  | returned : FailsWith s source (.failed source)
  | thrown : s.transformInForce = none →
      FailsWith s source (.panicked (.plain (.error source)))

/-- Either way the worker is to report the error with the id of its message. -/
theorem phase_of_failsWith {s : Pool} {m : Message} {source : TaskError}
    {outcome : Outcome TaskError Thrown} (h : s.FailsWith source outcome)
    (hw : s.workers[w]? = some (.inTask m)) :
    (s.step (.task w (.finish outcome))).workers[w]? =
      some (.reporting (.task m.shownId source) .poll) := by
  cases h with
  | returned =>
    rw [Turn.taskFailed.step_eq hw]
    exact phase_apply_self hw _
  | thrown hforce =>
    rw [(Turn.taskPanicked hforce).step_eq hw]
    exact phase_apply_self hw _

/-! ### From the channel to the reader -/

theorem Turn.keeps_unread {s : Pool} {l : Label} {phase : Phase} {e : Effect}
    (ht : Turn s w l phase e) : ∃ new, e.channel.unread = s.channel.unread ++ new := by
  cases ht with
  | reportTaken _ => exact ⟨[_], rfl⟩
  | start | call | logFailure | complete | leave | reportDropped _ =>
    unfold spoken
    split
    · exact ⟨[], (List.append_nil _).symm⟩
    · exact ⟨[], (List.append_nil _).symm⟩
  | _ => exact ⟨[], (List.append_nil _).symm⟩

/-- Only the reader takes errors away. -/
theorem keeps_unread_step (s : Pool) {l : Label} (hread : l.isRead = false)
    (hdrop : l.isDrop = false) :
    ∃ new, (s.step l).channel.unread = s.channel.unread ++ new := by
  have hsame : ∃ new, s.channel.unread = s.channel.unread ++ new :=
    ⟨[], (List.append_nil _).symm⟩
  cases hl : l.actor? with
  | some v =>
    rcases s.step_of_actor hl with hstep | ⟨phase, e, -, ht, he⟩
    · rw [hstep]
      exact hsame
    · rw [he]
      exact ht.keeps_unread
  | none =>
    by_cases hends : l.endsReader = false
    · rw [(s.step_aside hl hread hends).1]
      exact hsame
    · cases l with
      | closeErrors =>
        obtain ⟨receiver, heq, -⟩ := s.channel.close_eq
        show ∃ new, s.channel.close.unread = s.channel.unread ++ new
        rw [heq]
        exact hsame
      | dropErrors => cases hdrop
      | _ => exact absurd rfl hends

/-- **First in, first out.** A reader that does not drop its end gets each unread error, as it
    is, after as many others as are unread before it. -/
theorem readings_unread {s : Pool} (hr : s.channel.receiver ≠ .gone) {labels : List Label}
    (hkeep : ∀ l ∈ labels, l.isDrop = false) {i : Nat} (hi : i < s.channel.unread.length)
    (hreads : i < labels.countP Label.isRead) :
    ((s.readings labels).filterMap ReadResult.error?)[i]? = s.channel.unread[i]? := by
  -- along the labels the error moves to the front, one place with each read
  induction labels generalizing s i with
  | nil => simp at hreads
  | cons l ls ih =>
    have hdrop : l.isDrop = false := hkeep l List.mem_cons_self
    have hr' : (s.step l).channel.receiver ≠ .gone := mt (receiver_gone_iff s hdrop).mp hr
    have hkeep' : ∀ m ∈ ls, m.isDrop = false :=
      fun m hm => hkeep m (List.mem_cons_of_mem l hm)
    rw [readings, List.filterMap_append]
    cases hread : l.isRead with
    | false =>
      -- nothing is told, and the error is as far from the front as before
      obtain ⟨new, hnew⟩ := keeps_unread_step s hread hdrop
      have hi' : i < (s.step l).channel.unread.length := by
        rw [hnew, List.length_append]
        omega
      have hreads' : i < ls.countP Label.isRead := by
        simpa [List.countP_cons, hread] using hreads
      rw [told_of_not_read s hread, List.filterMap_nil, List.nil_append,
        ih hr' hkeep' hi' hreads', hnew, List.getElem?_append_left hi]
    | true =>
      obtain rfl : l = .readError := by
        cases l with
        | readError => rfl
        | _ => cases hread
      cases hun : s.channel.unread with
      | nil => simp [hun] at hi
      | cons e rest =>
        have htold : s.told .readError = [.error e] := by
          show [s.readResult] = [.error e]
          rw [readResult_of_unread hr hun]
        have hrest : (s.step .readError).channel.unread = rest := by
          rw [s.step_readError.1, ErrorChannel.read_fst, if_neg hr, hun]
          rfl
        rw [htold]
        cases i with
        | zero => rfl
        | succ i =>
          -- the first one has been read, so the error is one place nearer
          have hi' : i < (s.step .readError).channel.unread.length := by
            rw [hrest]
            simpa [hun] using hi
          have hreads' : i < ls.countP Label.isRead := by
            simpa [List.countP_cons, Label.isRead] using hreads
          have hnext := ih hr' hkeep' hi' hreads'
          rw [hrest] at hnext
          exact hnext

/-- How an error gets from a worker that is to report it to the reader. -/
structure Carried (s : Pool) (w : Nat) (e : PoolError) : Prop where
  /-- It is what the worker is to report. -/
  owed : s.owed w = [e]
  /-- The next step of the worker reports it, and a channel that accepts it has it behind
      those that are unread. -/
  taken : s.channel.accepts = true → s.news w (.run w) = [.reported e true] ∧
    (s.step (.run w)).channel.unread = s.channel.unread ++ [e]
  /-- From one that does not, the logger is told of it. -/
  dropped : s.channel.accepts = false → ∃ rest,
    s.news w (.run w) = .reported e false :: .logged (.errorDropped e) :: rest
  /-- A reader that does not drop its end and reads often enough gets it, as it is, right
      after the errors that were unread before. -/
  read : s.channel.accepts = true → ∀ labels, (∀ l ∈ labels, l.isDrop = false) →
    s.channel.unread.length < labels.countP Label.isRead →
    (((s.step (.run w)).readings labels).filterMap ReadResult.error?)[
      s.channel.unread.length]? = some e

/-- So it is with every error that a worker is to report. -/
theorem carried_of_reporting {s : Pool} {e : PoolError} {after : AfterReport}
    (hw : s.workers[w]? = some (.reporting e after)) : Carried s w e := by
  have htaken (hacc : s.channel.accepts = true) :
      s.news w (.run w) = [.reported e true] ∧
        (s.step (.run w)).channel.unread = s.channel.unread ++ [e] := by
    have ht : Turn s w (.run w) (.reporting e after) _ := .reportTaken hacc
    refine ⟨(ht.view hw).1, ?_⟩
    rw [ht.step_eq hw]
    rfl
  constructor
  case owed => simp [Pool.owed, hw, Phase.owed]
  case taken => exact htaken
  case dropped =>
    intro hacc
    have ht : Turn s w (.run w) (.reporting e after) _ := .reportDropped hacc
    rw [(ht.view hw).1]
    unfold spoken
    split
    · exact ⟨_, rfl⟩
    · exact ⟨_, rfl⟩
  case read =>
    intro hacc labels hkeep hreads
    -- once reported, it is the last one that is unread
    have hunread := (htaken hacc).2
    have hlisten : (s.step (.run w)).channel.receiver ≠ .gone := by
      rw [receiver_step s rfl, (s.channel.accepts_iff.mp hacc).1]
      simp
    have hi : s.channel.unread.length < (s.step (.run w)).channel.unread.length := by
      rw [hunread, List.length_append]
      exact Nat.lt_succ_self _
    rw [readings_unread hlisten hkeep hi hreads, hunread, List.getElem?_concat_length]

end Pool

/-! ### The guarantee -/

open TaskError

/-- An error with one layer more than another, around all of it. -/
structure OneLayerMore (id : String) (e outer : PoolError) : Prop where
  text : outer.message = layerText id ++ e.message
  source : outer.source? = some (.pool e)
  sources : outer.sources = e.message :: e.sources
  messageId : outer.messageId? = some id
  layers : ∀ ids root, nested ids root = .pool e → nested (id :: ids) root = .pool outer

/-- What the layers of a pool error tell. -/
structure Layered (e : PoolError) : Prop where
  /-- It is a root with layers around it. -/
  built : ∃ ids root, IsRoot root ∧ nested ids root = .pool e
  /-- In one way only. -/
  unique : ∀ ids ids' root root', IsRoot root → IsRoot root' → nested ids root = .pool e →
    nested ids' root' = .pool e → ids = ids' ∧ root = root'
  /-- The errors met from source to source have the texts shown for the sources. -/
  chain : ∀ n, (follow e.source? n).map TaskError.message = e.sources[n]?
  /-- There are no more of them. -/
  finite : follow e.source? e.sources.length = none
  /-- The text of each ends in that of the next, its own first. -/
  suffixes : List.IsChain (fun above below => ∃ front, above = front ++ below)
    (e.message :: e.sources)
  /-- Its text is that of its layers and then that of its root. -/
  text : ∀ ids root, nested ids root = .pool e → e.message =
    String.join (ids.map fun id => "failed to execute task on message " ++ id ++ ": ")
      ++ root.message
  /-- There is one source for each layer, and then those of the root. -/
  count : ∀ ids root, nested ids root = .pool e →
    e.sources.length = ids.length + root.sources.length
  /-- Below it stand the errors with fewer of its layers, the root at last. -/
  below : ∀ ids root, nested ids root = .pool e → ∀ n < ids.length,
    follow e.source? n = some (nested (ids.drop (n + 1)) root)
  /-- A root has no sources, or it is a pool error that is only a text, and has that text as
      its source. -/
  root : ∀ ids root, IsRoot root → nested ids root = .pool e →
    ((∃ text, root = .pool (.generic text)) → root.sources = [root.message]) ∧
    ((∀ text, root ≠ .pool (.generic text)) → root.sources = [])
  /-- It is about the message of its outermost layer, or of the delete that failed. -/
  messageId : ∀ id, e.messageId? = some id ↔
    (∃ source, e = .task id source) ∨ ∃ reason, e = .delete id reason
  /-- Whatever is inside. -/
  outermost : ∀ id ids root, nested (id :: ids) root = .pool e → e.messageId? = some id
  /-- As the error of a task it looks the same. -/
  boxed : (TaskError.pool e).message = e.message ∧ (TaskError.pool e).sources = e.sources ∧
    (TaskError.pool e).source? = e.source?
  /-- With the id of a message around it, it is one layer more. -/
  wrapped : ∀ id, OneLayerMore id e (.task id (.pool e))
  /-- A task that returns it, or throws it where no transform is in force, has it reported
      and read with the id of its message around it, whatever happens in between. -/
  passedOn : ∀ (s : Pool) w m outcome before, s.workers[w]? = some (.inTask m) →
    s.FailsWith (.pool e) outcome → (∀ l ∈ before, l.actor? ≠ some w) →
    ((s.step (.task w (.finish outcome))).run before).Carried w
      (.task (m.id.getD "") (.pool e))

theorem messageId?_eq_some_iff (e : PoolError) (id : String) : e.messageId? = some id ↔
    (∃ source, e = .task id source) ∨ ∃ reason, e = .delete id reason := by
  cases e with
  | task id' source => simp [PoolError.messageId?, eq_comm]
  | delete id' reason => simp [PoolError.messageId?, eq_comm]
  | _ => simp [PoolError.messageId?]

/-- **Texts and sources of errors.** Every pool error is told by its layers, however many it
    has, and a pool that is told of it adds one. -/
theorem errors_layered (e : PoolError) : Layered e := by
  have hchain := follow_source (.pool e)
  constructor
  case built => exact exists_nested (.pool e)
  case unique =>
    intro ids ids' root root' hroot hroot' h h'
    exact nested_injective hroot hroot' (h.trans h'.symm)
  case chain => exact hchain
  case finite =>
    have hend := hchain e.sources.length
    rw [show (TaskError.pool e).sources = e.sources from rfl, List.getElem?_length] at hend
    exact Option.map_eq_none_iff.mp hend
  case suffixes => exact isChain_sources (.pool e)
  case text =>
    intro ids root h
    have htext := message_nested ids root
    rw [h] at htext
    exact htext
  case count =>
    intro ids root h
    have hcount := length_sources_nested ids root
    rw [h] at hcount
    exact hcount
  case below =>
    intro ids root h n hn
    have hbelow := follow_nested ids root hn
    rw [h] at hbelow
    exact hbelow
  case root =>
    intro ids root hroot _
    rcases hroot.source_cases with ⟨text, rfl⟩ | ⟨hno, -, hsources⟩
    · exact ⟨fun _ => rfl, fun h => absurd rfl (h text)⟩
    · refine ⟨?_, fun _ => hsources⟩
      rintro ⟨text, htext⟩
      exact absurd htext (hno text)
  case messageId => exact messageId?_eq_some_iff e
  case outermost =>
    intro id ids root h
    rw [nested_cons] at h
    obtain rfl : PoolError.task id (nested ids root) = e := TaskError.pool.inj h
    rfl
  case boxed => exact ⟨rfl, rfl, rfl⟩
  case wrapped =>
    intro id
    exact ⟨rfl, rfl, rfl, rfl, fun ids root h => by rw [nested_cons, h]; rfl⟩
  case passedOn =>
    intro s w m outcome before hw hfails hbefore
    have hreporting := Pool.phase_of_failsWith hfails hw
    rw [← Pool.phase_run_of_others _ hbefore] at hreporting
    exact Pool.carried_of_reporting hreporting

end ConsumerPool
