import ConsumerPool.Error
import Mathlib.Data.List.Chain

/-! # Layers of Errors

  A pool error about a failed message is a layer around the error of the task, which may be
  such a layer again. Under the last layer lies the root: every other error. What is shown
  for an error and what is met on the way from one source to the next is then read off its
  layers; all of it goes by the induction that takes off one layer at a time. -/

namespace ConsumerPool

/-! ### From an error to its source -/

/-- The error that a pool error gives as its source, if it gives one. -/
def PoolError.source? : PoolError → Option TaskError
  | .task _ source => some source
  | .generic text => some (.generic text)
  | .invalidConfig _ | .initialization _ | .receive _ | .delete _ _ | .send _
  | .join _ => none

namespace TaskError

/-- The error that a task error gives as its source, if it gives one: a pool error that is
    passed on gives its own. -/
def source? : TaskError → Option TaskError
  | .pool error => error.source?
  | .generic _ | .panicked _ | .foreign _ => none

/-- The error that is met after some more steps, each from an error to its source. -/
def follow : Option TaskError → Nat → Option TaskError
  | start, 0 => start
  | start, n + 1 => follow (start.bind source?) n

@[simp] theorem follow_none (n : Nat) : follow none n = none := by
  induction n with
  | zero => rfl
  | succ n ih => exact ih

/-! ### Layers -/

/-- An error with the layer around it of a message that failed by it. -/
def layer (messageId : String) (source : TaskError) : TaskError :=
  .pool (.task messageId source)

/-- An error with layers around it, the outermost first. -/
def nested (messageIds : List String) (root : TaskError) : TaskError :=
  messageIds.foldr layer root

/-- Whether an error is no layer. -/
def IsRoot (e : TaskError) : Prop := ∀ messageId source, e ≠ layer messageId source

/-- What a layer adds in front of the text of an error. -/
def layerText (messageId : String) : String :=
  "failed to execute task on message " ++ messageId ++ ": "

@[simp] theorem nested_nil (root : TaskError) : nested [] root = root := rfl

@[simp] theorem nested_cons (messageId : String) (messageIds : List String)
    (root : TaskError) :
    nested (messageId :: messageIds) root = layer messageId (nested messageIds root) := rfl

@[simp] theorem message_layer (messageId : String) (source : TaskError) :
    (layer messageId source).message = layerText messageId ++ source.message := rfl

@[simp] theorem sources_layer (messageId : String) (source : TaskError) :
    (layer messageId source).sources = source.message :: source.sources := rfl

@[simp] theorem source?_layer (messageId : String) (source : TaskError) :
    (layer messageId source).source? = some source := rfl

/-- **Induction on layers.** What holds of every root and is kept by every layer holds of
    every error. -/
@[elab_as_elim]
theorem inductionOnLayers {motive : TaskError → Prop}
    (root : ∀ e, IsRoot e → motive e)
    (layer : ∀ messageId source, motive source → motive (layer messageId source)) :
    ∀ e, motive e
  | .generic _ => root _ nofun
  | .panicked _ => root _ nofun
  | .foreign _ => root _ nofun
  | .pool (.task messageId source) =>
    layer messageId source (inductionOnLayers root layer source)
  | .pool (.invalidConfig _) => root _ nofun
  | .pool (.initialization _) => root _ nofun
  | .pool (.receive _) => root _ nofun
  | .pool (.delete _ _) => root _ nofun
  | .pool (.send _) => root _ nofun
  | .pool (.join _) => root _ nofun
  | .pool (.generic _) => root _ nofun

/-! ### Roots -/

/-- A root has no source, or it is a pool error that is only a text: then it is also its own
    source, which is the last one. -/
theorem IsRoot.source_cases {e : TaskError} (h : IsRoot e) :
    (∃ text, e = .pool (.generic text)) ∨
      (∀ text, e ≠ .pool (.generic text)) ∧ e.source? = none ∧ e.sources = [] := by
  cases e with
  | pool error =>
    cases error with
    | task messageId source => exact absurd rfl (h messageId source)
    | generic text => exact .inl ⟨text, rfl⟩
    | _ => exact .inr ⟨nofun, rfl, rfl⟩
  | _ => exact .inr ⟨nofun, rfl, rfl⟩

/-! ### Texts and sources -/

/-- **The chain of sources.** The errors met from source to source have the texts that are
    shown for the sources, in order, and then there is none. -/
theorem follow_source (e : TaskError) (n : Nat) :
    (follow e.source? n).map message = e.sources[n]? := by
  induction e using inductionOnLayers generalizing n with
  | root e he =>
    rcases he.source_cases with ⟨text, rfl⟩ | ⟨-, hsource, hsources⟩
    · -- one more step leads to an error that gives no source
      cases n with
      | zero => rfl
      | succ n => exact congrArg (Option.map message) (follow_none n)
    · rw [hsource, hsources, follow_none]
      rfl
  | layer messageId source ih =>
    rw [source?_layer, sources_layer]
    cases n with
    | zero => rfl
    | succ n => exact ih n

theorem isChain_sources (e : TaskError) :
    List.IsChain (fun above below => ∃ front, above = front ++ below)
      (e.message :: e.sources) := by
  induction e using inductionOnLayers with
  | root e he =>
    rcases he.source_cases with ⟨text, rfl⟩ | ⟨-, -, hsources⟩
    · exact .cons_cons ⟨"", String.empty_append.symm⟩ (.singleton _)
    · rw [hsources]
      exact .singleton _
  | layer messageId source ih => exact .cons_cons ⟨layerText messageId, rfl⟩ ih

/-! ### Errors by their layers -/

/-- Every error is a root with layers around it. -/
theorem exists_nested (e : TaskError) :
    ∃ messageIds root, IsRoot root ∧ nested messageIds root = e := by
  induction e using inductionOnLayers with
  | root e he => exact ⟨[], e, he, rfl⟩
  | layer messageId source ih =>
    obtain ⟨messageIds, root, hroot, rfl⟩ := ih
    exact ⟨messageId :: messageIds, root, hroot, rfl⟩

theorem nested_injective {ids ids' : List String} {root root' : TaskError}
    (hroot : IsRoot root) (hroot' : IsRoot root')
    (h : nested ids root = nested ids' root') : ids = ids' ∧ root = root' := by
  -- where only one side has a layer left, the root of the other would be a layer
  induction ids generalizing ids' with
  | nil =>
    cases ids' with
    | nil => exact ⟨rfl, h⟩
    | cons id' ids' => exact absurd h (hroot id' _)
  | cons id ids ih =>
    cases ids' with
    | nil => exact absurd h.symm (hroot' id _)
    | cons id' ids' =>
      have hid : id = id' ∧ nested ids root = nested ids' root' := by
        simpa [layer] using h
      obtain ⟨rfl, rfl⟩ := ih hid.2
      exact ⟨by rw [hid.1], rfl⟩

theorem message_nested (ids : List String) (root : TaskError) :
    (nested ids root).message = String.join (ids.map layerText) ++ root.message := by
  induction ids with
  | nil => rw [List.map_nil, String.join_nil, String.empty_append, nested_nil]
  | cons id ids ih =>
    rw [nested_cons, message_layer, ih, List.map_cons, String.join_cons, String.append_assoc]

theorem length_sources_nested (ids : List String) (root : TaskError) :
    (nested ids root).sources.length = ids.length + root.sources.length := by
  induction ids with
  | nil => rw [nested_nil, List.length_nil, Nat.zero_add]
  | cons id ids ih =>
    rw [nested_cons, sources_layer, List.length_cons, ih, List.length_cons]
    omega

example : (nested ["a", "b"] (.pool (.generic "full"))).sources =
    ["failed to execute task on message b: full", "full", "full"] := by decide

/-- Below an error stand the errors with fewer of its layers, the root at last. -/
theorem follow_nested (ids : List String) (root : TaskError) {n : Nat}
    (hn : n < ids.length) :
    follow (nested ids root).source? n = some (nested (ids.drop (n + 1)) root) := by
  induction ids generalizing n with
  | nil => cases hn
  | cons id ids ih =>
    rw [nested_cons, source?_layer]
    cases n with
    | zero => rfl
    | succ n => exact ih (Nat.lt_of_succ_lt_succ hn)

end TaskError

end ConsumerPool
