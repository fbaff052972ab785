import ConsumerPool.Proofs.Numerals

/-! # Loading Parameters from the Environment

  Of the four variables two are texts and two are numbers. A variable that is not set, or
  whose bytes are not UTF-8, has no text and counts as absent. A number is a numeral between
  blanks that 32 bits can hold; the first variable of the two that holds anything else is
  named with its text, and no limit of the service is looked at. -/

namespace ConsumerPool

/-! ### Texts of variables -/

namespace Environment

/-- The environment with a variable set to a text. -/
def set (env : Environment) (name text : String) : Environment := (name, text.toUTF8) :: env

/-- Whether the value of a variable has no text. -/
inductive Textless : Option ByteArray → Prop where
  | unset : Textless none
  | notUTF8 {bytes : ByteArray} : ¬ bytes.IsValidUTF8 → Textless (some bytes)

/-- The text that the value of a variable holds, as it is; none is the empty one. -/
inductive Holds (value : Option ByteArray) : String → Prop where
  | absent : Textless value → Holds value ""
  | text {text : String} : value = some text.toUTF8 → Holds value text

theorem text_unique {value : Option ByteArray} {s t : String} (hs : value = some s.toUTF8)
    (ht : value = some t.toUTF8) : s = t :=
  String.toByteArray_inj.mp (Option.some.inj (hs.symm.trans ht))

theorem Textless.ne {value : Option ByteArray} (h : Textless value) (text : String) :
    value ≠ some text.toUTF8 := by
  rintro rfl
  cases h with
  | notUTF8 hinvalid => exact hinvalid text.isValidUTF8

theorem textless_or (value : Option ByteArray) :
    Textless value ∨ ∃ text : String, value = some text.toUTF8 := by
  cases value with
  | none => exact .inl .unset
  | some bytes =>
    by_cases hvalid : bytes.IsValidUTF8
    · exact .inr ⟨String.fromUTF8 bytes hvalid, rfl⟩
    · exact .inl (.notUTF8 hvalid)

theorem text?_of_textless {env : Environment} {name : String}
    (h : Textless (env.lookup name)) : env.text? name = none := by
  unfold text? String.fromUTF8?
  generalize env.lookup name = value at h
  cases h with
  | unset => rfl
  | notUTF8 hinvalid => exact dif_neg hinvalid

theorem text?_of_text {env : Environment} {name text : String}
    (h : env.lookup name = some text.toUTF8) : env.text? name = some text := by
  unfold text? String.fromUTF8?
  rw [h]
  exact dif_pos text.isValidUTF8

/-- What stands for the text of a variable is what its value holds. -/
theorem holds_text? (env : Environment) (name : String) :
    Holds (env.lookup name) ((env.text? name).getD "") := by
  rcases textless_or (env.lookup name) with hless | ⟨text, hset⟩
  · rw [text?_of_textless hless]
    exact .absent hless
  · rw [text?_of_text hset]
    exact .text hset

theorem Holds.eq {env : Environment} {name text : String} (h : Holds (env.lookup name) text) :
    (env.text? name).getD "" = text := by
  cases h with
  | absent hless =>
    rw [text?_of_textless hless]
    rfl
  | text hset =>
    rw [text?_of_text hset]
    rfl

end Environment

open Environment

namespace QueueParams

/-! ### Numbers of 32 bits -/

/-- Whether a number has 32 bits, one of them for the sign: from -2^31 to 2^31 - 1. -/
def Fits (n : Int) : Prop := -2147483648 ≤ n ∧ n ≤ 2147483647

instance (n : Int) : Decidable (Fits n) := inferInstanceAs (Decidable (_ ∧ _))

/-- **Numbers in variables.** The texts that hold a number are those that spell one of 32
    bits. -/
theorem setting?_eq_some_iff (text : String) (n : Int) :
    setting? text = some n ↔ Text.Spells text.toList n ∧ Fits n := by
  unfold setting?
  rw [← Text.integer?_trim_iff]
  split
  · next m hm =>
    rw [hm, Option.some.injEq]
    split
    · next hfits =>
      rw [Option.some.injEq]
      exact ⟨fun h => ⟨h, h ▸ hfits⟩, fun h => h.1⟩
    · next hno =>
      refine ⟨nofun, ?_⟩
      rintro ⟨rfl, hfits⟩
      exact absurd hfits hno
  · next hm => simp [hm]

example : setting? " -2147483648\n" = some minSetting := by decide

/-- A number, if it fits. -/
def held? (n : Int) : Option Int := if Fits n then some n else none

/-- Goes on with a number by digits, in numbers that fit: it is given up at the first one
    that does not. The digits of a negative number are taken away. -/
def accumulate? (sign n : Int) : List Char → Option Int
  | [] => some n
  | c :: cs =>
    (Text.digit? c).bind fun d =>
      (held? (10 * n)).bind fun tens =>
        (held? (tens + sign * d)).bind fun next => accumulate? sign next cs

/-- Reads one or more digits in numbers that fit. -/
def signed? (sign : Int) : List Char → Option Int
  | [] => none
  | c :: cs => accumulate? sign 0 (c :: cs)

/-- Reads a numeral in numbers that fit. -/
def word? : List Char → Option Int
  | [] => none
  | c :: cs =>
    if c = '-' then signed? (-1) cs
    else if c = '+' then signed? 1 cs
    else signed? 1 (c :: cs)

theorem held?_of_fits {n : Int} (h : Fits n) : held? n = some n := if_pos h

theorem held?_of_not_fits {n : Int} (h : ¬ Fits n) : held? n = none := if_neg h

/-- Digits only add to a number. -/
theorem le_of_digitsFrom? {n m : Nat} {cs : List Char} (h : Text.digitsFrom? n cs = some m) :
    n ≤ m := by
  induction cs generalizing n with
  | nil =>
    obtain rfl := Option.some.inj h
    exact Nat.le_refl n
  | cons c cs ih =>
    unfold Text.digitsFrom? at h
    split at h
    · next d _ =>
      have hle := ih h
      omega
    · cases h

/-- A number that does not fit stays so, however many digits follow. -/
theorem held?_digitsFrom?_eq_none {sign : Int} (hsign : sign = 1 ∨ sign = -1) {n k : Nat}
    (hn : ¬ Fits (sign * n)) (hle : n ≤ k) (cs : List Char) :
    (Text.digitsFrom? k cs).bind (fun m => held? (sign * m)) = none := by
  rw [Option.bind_eq_none_iff]
  intro m hm
  have hge := le_of_digitsFrom? hm
  apply held?_of_not_fits
  unfold Fits at hn ⊢
  rcases hsign with rfl | rfl <;> omega

/-- Digit by digit in numbers that fit comes to the same as all digits at once: a number
    that does not fit on the way does not fit in the end. -/
theorem accumulate?_eq {sign : Int} (hsign : sign = 1 ∨ sign = -1) {n : Nat}
    (hn : Fits (sign * n)) (cs : List Char) : accumulate? sign (sign * n) cs =
      (Text.digitsFrom? n cs).bind fun m => held? (sign * m) := by
  -- the number read so far fits; where the next one does not, no digit can bring it back
  induction cs generalizing n with
  | nil => exact (held?_of_fits hn).symm
  | cons c cs ih =>
    unfold accumulate? Text.digitsFrom?
    cases Text.digit? c with
    | none => rfl
    | some d =>
      have htens : 10 * (sign * n) = sign * (10 * n : Nat) := by
        rcases hsign with rfl | rfl <;> omega
      have hnext : sign * (10 * n : Nat) + sign * (d : Int) = sign * (10 * n + d : Nat) := by
        rcases hsign with rfl | rfl <;> omega
      simp only [Option.bind_some, htens]
      by_cases hfits : Fits (sign * (10 * n : Nat))
      · simp only [held?_of_fits hfits, Option.bind_some, hnext]
        by_cases hfits' : Fits (sign * (10 * n + d : Nat))
        · rw [held?_of_fits hfits', Option.bind_some, ih hfits']
        · rw [held?_of_not_fits hfits', Option.bind_none,
            held?_digitsFrom?_eq_none hsign hfits' (Nat.le_refl _)]
      · rw [held?_of_not_fits hfits, Option.bind_none,
          held?_digitsFrom?_eq_none hsign hfits (Nat.le_add_right _ d)]

theorem signed?_eq {sign : Int} (hsign : sign = 1 ∨ sign = -1) (cs : List Char) :
    signed? sign cs = (Text.natural? cs).bind fun m => held? (sign * m) := by
  cases cs with
  | nil => rfl
  | cons c cs =>
    have hzero : sign * (0 : Nat) = 0 := by simp
    have hfits : Fits (sign * (0 : Nat)) := by
      rw [hzero]
      decide
    have hread := accumulate?_eq hsign hfits (c :: cs)
    rw [hzero] at hread
    exact hread

/-- **Overflow.** What a variable holds can be read digit by digit in 32 bits. -/
theorem setting?_eq_word? (text : String) :
    setting? text = word? (Text.trim text.toList) := by
  have hsetting : setting? text = (Text.integer? (Text.trim text.toList)).bind held? := by
    unfold setting?
    cases Text.integer? (Text.trim text.toList) <;> rfl
  rw [hsetting]
  -- both ways of reading branch on the first character
  cases Text.trim text.toList with
  | nil => rfl
  | cons c cs =>
    rw [Text.integer?_cons, word?, signed?_eq (.inr rfl), signed?_eq (.inl rfl),
      signed?_eq (.inl rfl)]
    split
    · cases Text.natural? cs <;> simp
    · split
      · cases Text.natural? cs <;> simp
      · cases Text.natural? (c :: cs) <;> simp

/-! ### What a variable gives -/

/-- The number that the value of a variable gives: the default one without a text. -/
inductive Gives (value : Option ByteArray) (default : Int) : Int → Prop where
  | absent : Textless value → Gives value default default
  | number {text : String} {n : Int} : value = some text.toUTF8 →
      Text.Spells text.toList n → Fits n → Gives value default n

/-- Whether the value of a variable is a text that holds no number of 32 bits. -/
structure Offends (value : Option ByteArray) (text : String) : Prop where
  set : value = some text.toUTF8
  refused : ∀ n, Text.Spells text.toList n → ¬ Fits n

/-- The error that names a variable with the text it is set to. -/
def settingError (name text : String) : PoolError :=
  .invalidConfig (name ++ " is not a valid number: " ++ text)

theorem Gives.unique {value : Option ByteArray} {default n m : Int}
    (hn : Gives value default n) (hm : Gives value default m) : n = m := by
  cases hn with
  | absent hless =>
    cases hm with
    | absent _ => rfl
    | number hset _ _ => exact absurd hset (hless.ne _)
  | number hset hspells _ =>
    cases hm with
    | absent hless => exact absurd hset (hless.ne _)
    | number hset' hspells' _ =>
      obtain rfl := text_unique hset hset'
      exact hspells.unique hspells'

theorem Gives.not_offends {value : Option ByteArray} {default n : Int}
    (h : Gives value default n) (text : String) : ¬ Offends value text := by
  intro hoffends
  cases h with
  | absent hless => exact hless.ne text hoffends.set
  | number hset hspells hfits =>
    obtain rfl := text_unique hset hoffends.set
    exact hoffends.refused n hspells hfits

/-- Every value gives a number or offends. -/
theorem gives_or_offends (value : Option ByteArray) (default : Int) :
    (∃ n, Gives value default n) ∨ ∃ text, Offends value text := by
  rcases textless_or value with hless | ⟨text, hset⟩
  · exact .inl ⟨default, .absent hless⟩
  · -- a text that spells only numbers that do not fit offends as one that spells none
    by_cases hnumber : ∃ n, Text.Spells text.toList n ∧ Fits n
    · obtain ⟨n, hspells, hfits⟩ := hnumber
      exact .inl ⟨n, .number hset hspells hfits⟩
    · exact .inr ⟨text, hset, fun n hspells hfits => hnumber ⟨n, hspells, hfits⟩⟩

theorem Gives.readSetting_eq {env : Environment} {name : String} {default n : Int}
    (h : Gives (env.lookup name) default n) : readSetting env name default = .ok n := by
  unfold readSetting
  cases h with
  | absent hless => rw [text?_of_textless hless]
  | number hset hspells hfits =>
    rw [text?_of_text hset]
    simp only [(setting?_eq_some_iff _ n).mpr ⟨hspells, hfits⟩]

theorem Offends.readSetting_eq {env : Environment} {name text : String} (default : Int)
    (h : Offends (env.lookup name) text) :
    readSetting env name default = .error (settingError name text) := by
  have hnone : setting? text = none := by
    rw [Option.eq_none_iff_forall_ne_some]
    intro n hn
    obtain ⟨hspells, hfits⟩ := (setting?_eq_some_iff text n).mp hn
    exact h.refused n hspells hfits
  unfold readSetting
  rw [text?_of_text h.set]
  simp only [hnone]
  rfl

/-! ### The guarantee -/

/-- What loading the parameters from an environment comes to. -/
inductive Loads (env : Environment) : Except PoolError QueueParams → Prop where
  /-- Both numbers are given; the two texts are taken as they are. -/
  | loaded {params : QueueParams} :
      Gives (env.lookup "SQS_MAX_RECEIVED_MESSAGES") 10 params.maxMessages →
      Gives (env.lookup "SQS_WAIT_TIME_SECONDS") 20 params.waitSeconds →
      Holds (env.lookup "AWS_REGION") params.region →
      Holds (env.lookup "SQS_QUEUE_URL") params.url → Loads env (.ok params)
  /-- The number of messages offends, whatever the waiting time is. -/
  | refusedMax {text : String} : Offends (env.lookup "SQS_MAX_RECEIVED_MESSAGES") text →
      Loads env (.error (.invalidConfig
        ("SQS_MAX_RECEIVED_MESSAGES is not a valid number: " ++ text)))
  /-- Only the waiting time offends. -/
  | refusedWait {max : Int} {text : String} :
      Gives (env.lookup "SQS_MAX_RECEIVED_MESSAGES") 10 max →
      Offends (env.lookup "SQS_WAIT_TIME_SECONDS") text →
      Loads env (.error (.invalidConfig
        ("SQS_WAIT_TIME_SECONDS is not a valid number: " ++ text)))

/-- Loading comes to what the two numbers come to, in order. -/
theorem ofEnvironment_eq (env : Environment) : ofEnvironment env =
    match readSetting env "SQS_MAX_RECEIVED_MESSAGES" 10 with
    | .error e => .error e
    | .ok max =>
      match readSetting env "SQS_WAIT_TIME_SECONDS" 20 with
      | .error e => .error e
      | .ok wait => .ok
        { region := (env.text? "AWS_REGION").getD ""
          url := (env.text? "SQS_QUEUE_URL").getD ""
          maxMessages := max
          waitSeconds := wait } := by
  show (readSetting env "SQS_MAX_RECEIVED_MESSAGES" 10 >>= fun max =>
    readSetting env "SQS_WAIT_TIME_SECONDS" 20 >>= fun wait => pure _) = _
  cases readSetting env "SQS_MAX_RECEIVED_MESSAGES" 10 with
  | error e => rfl
  | ok max => cases readSetting env "SQS_WAIT_TIME_SECONDS" 20 <;> rfl

theorem Loads.eq {env : Environment} {result : Except PoolError QueueParams}
    (h : Loads env result) : ofEnvironment env = result := by
  rw [ofEnvironment_eq]
  cases h with
  | loaded hmax hwait hregion hurl =>
    rw [hmax.readSetting_eq, hwait.readSetting_eq, hregion.eq, hurl.eq]
  | refusedMax hoffends =>
    rw [hoffends.readSetting_eq]
    rfl
  | refusedWait hmax hoffends =>
    rw [hmax.readSetting_eq, hoffends.readSetting_eq]
    rfl

/-- Parameters are loaded where both numbers are given. -/
theorem exists_loaded {env : Environment} {max wait : Int}
    (hmax : Gives (env.lookup "SQS_MAX_RECEIVED_MESSAGES") 10 max)
    (hwait : Gives (env.lookup "SQS_WAIT_TIME_SECONDS") 20 wait) : ∃ params,
    Loads env (.ok params) ∧ params.maxMessages = max ∧ params.waitSeconds = wait := by
  let params : QueueParams :=
    { region := (env.text? "AWS_REGION").getD ""
      url := (env.text? "SQS_QUEUE_URL").getD ""
      maxMessages := max
      waitSeconds := wait }
  exact ⟨params, .loaded hmax hwait (env.holds_text? _) (env.holds_text? _), rfl, rfl⟩

theorem loads_ofEnvironment (env : Environment) : Loads env (ofEnvironment env) := by
  -- one of the three applies, and loading comes to what it says
  suffices h : ∃ result, Loads env result by
    obtain ⟨result, hloads⟩ := h
    rwa [hloads.eq]
  rcases gives_or_offends (env.lookup "SQS_MAX_RECEIVED_MESSAGES") 10 with
    ⟨max, hmax⟩ | ⟨text, hoffends⟩
  · rcases gives_or_offends (env.lookup "SQS_WAIT_TIME_SECONDS") 20 with
      ⟨wait, hwait⟩ | ⟨text, hoffends⟩
    · obtain ⟨params, hloads, -⟩ := exists_loaded hmax hwait
      exact ⟨_, hloads⟩
    · exact ⟨_, .refusedWait hmax hoffends⟩
  · exact ⟨_, .refusedMax hoffends⟩

/-- How parameters are loaded from an environment. -/
structure LoadsSettings (env : Environment) : Prop where
  /-- Loading comes to the parameters or to the first variable that offends. -/
  exactly : ∀ result, ofEnvironment env = result ↔ Loads env result
  /-- It succeeds exactly if both numbers are given, within whatever limits. -/
  succeeds : (∃ params, ofEnvironment env = .ok params) ↔
    (∃ n, Gives (env.lookup "SQS_MAX_RECEIVED_MESSAGES") 10 n) ∧
      ∃ n, Gives (env.lookup "SQS_WAIT_TIME_SECONDS") 20 n
  /-- A variable gives a number exactly if it does not offend. -/
  decided : ∀ value default,
    (∃ n, Gives value default n) ↔ ¬ ∃ text, Offends value text
  /-- It gives one number only. -/
  unique : ∀ value default n m, Gives value default n → Gives value default m → n = m
  /-- A variable that is set to nothing but blanks offends. -/
  blank : ∀ text : String, Text.Blank text.toList → Offends (some text.toUTF8) text
  /-- Every number of 32 bits is loaded from its decimal form between blanks, as the number
      of messages. -/
  max : ∀ {u v : String} {n wait : Int}, Text.Blank u.toList → Text.Blank v.toList →
    Fits n → Gives (env.lookup "SQS_WAIT_TIME_SECONDS") 20 wait → ∃ params,
    ofEnvironment (env.set "SQS_MAX_RECEIVED_MESSAGES" (u ++ Text.numeral n ++ v)) =
        .ok params ∧
      params.maxMessages = n ∧ params.waitSeconds = wait
  /-- So it is as the waiting time. -/
  wait : ∀ {u v : String} {n max : Int}, Text.Blank u.toList → Text.Blank v.toList →
    Fits n → Gives (env.lookup "SQS_MAX_RECEIVED_MESSAGES") 10 max → ∃ params,
    ofEnvironment (env.set "SQS_WAIT_TIME_SECONDS" (u ++ Text.numeral n ++ v)) =
        .ok params ∧
      params.maxMessages = max ∧ params.waitSeconds = n
  /-- Numbers can be read digit by digit in 32 bits. -/
  words : ∀ text, setting? text = word? (Text.trim text.toList)

/-- **Loading parameters.** From every environment, whatever its variables are set to. -/
theorem ofEnvironment_loads (env : Environment) : LoadsSettings env := by
  -- the decimal form between blanks is one of the texts that give the number
  have hgives {u v : String} {n : Int} (hu : Text.Blank u.toList) (hv : Text.Blank v.toList)
      (hfits : Fits n) (default : Int) :
      Gives (some (u ++ Text.numeral n ++ v).toUTF8) default n :=
    .number rfl (Text.spells_numeral hu hv n) hfits
  constructor
  case exactly =>
    intro result
    constructor
    · rintro rfl
      exact loads_ofEnvironment env
    · exact Loads.eq
  case succeeds =>
    constructor
    · rintro ⟨params, hparams⟩
      have hloads := loads_ofEnvironment env
      rw [hparams] at hloads
      cases hloads with
      | loaded hmax hwait _ _ => exact ⟨⟨_, hmax⟩, ⟨_, hwait⟩⟩
    · rintro ⟨⟨max, hmax⟩, ⟨wait, hwait⟩⟩
      obtain ⟨params, hloads, -⟩ := exists_loaded hmax hwait
      exact ⟨params, hloads.eq⟩
  case decided =>
    intro value default
    constructor
    · rintro ⟨n, hn⟩ ⟨text, hoffends⟩
      exact hn.not_offends text hoffends
    · exact (gives_or_offends value default).resolve_right
  case unique => exact fun value default n m hn hm => hn.unique hm
  case blank =>
    intro text hblank
    exact ⟨rfl, fun n hspells => absurd hspells (Text.not_spells_of_blank hblank n)⟩
  case max =>
    intro u v n wait hu hv hfits hwait
    let env' := env.set "SQS_MAX_RECEIVED_MESSAGES" (u ++ Text.numeral n ++ v)
    have hmax : Gives (env'.lookup "SQS_MAX_RECEIVED_MESSAGES") 10 n := hgives hu hv hfits 10
    have hwait' : Gives (env'.lookup "SQS_WAIT_TIME_SECONDS") 20 wait := hwait
    obtain ⟨params, hloads, hnumbers⟩ := exists_loaded hmax hwait'
    exact ⟨params, hloads.eq, hnumbers⟩
  case wait =>
    intro u v n max hu hv hfits hmax
    let env' := env.set "SQS_WAIT_TIME_SECONDS" (u ++ Text.numeral n ++ v)
    have hmax' : Gives (env'.lookup "SQS_MAX_RECEIVED_MESSAGES") 10 max := hmax
    have hwait : Gives (env'.lookup "SQS_WAIT_TIME_SECONDS") 20 n := hgives hu hv hfits 20
    obtain ⟨params, hloads, hnumbers⟩ := exists_loaded hmax' hwait
    exact ⟨params, hloads.eq, hnumbers⟩
  case words => exact setting?_eq_word?

end QueueParams

end ConsumerPool
