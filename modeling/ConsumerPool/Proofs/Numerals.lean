import ConsumerPool.Queue.Params
import Mathlib.Data.List.DropRight

/-! # Numerals between Blanks

  The text of a number is a grammar: characters with the property `White_Space`, an optional
  sign, one or more ASCII digits, and such characters again. Trimming finds the numeral
  between the blanks and reading it finds the value of its digits, so the two together accept
  exactly the grammar. The decimal form of an integer is one of its texts. -/

namespace ConsumerPool.Text

/-! ### Blanks -/

/-- The property `White_Space`, by ranges of code points. -/
def WhiteSpace (c : Char) : Prop :=
  (0x9 ≤ c.toNat ∧ c.toNat ≤ 0xD) ∨ c.toNat = 0x20 ∨ c.toNat = 0x85 ∨ c.toNat = 0xA0 ∨
    c.toNat = 0x1680 ∨ (0x2000 ≤ c.toNat ∧ c.toNat ≤ 0x200A) ∨
    (0x2028 ≤ c.toNat ∧ c.toNat ≤ 0x2029) ∨ c.toNat = 0x202F ∨ c.toNat = 0x205F ∨
    c.toNat = 0x3000

theorem isBlank_iff (c : Char) : isBlank c = true ↔ WhiteSpace c := by
  unfold isBlank blankCodes WhiteSpace
  simp only [List.contains_eq_mem, List.mem_cons, List.not_mem_nil, or_false,
    decide_eq_true_eq]
  omega

/-- Whether a text is all blank. -/
def Blank (cs : List Char) : Prop := ∀ c ∈ cs, WhiteSpace c

theorem blank_append {u v : List Char} (hu : Blank u) (hv : Blank v) : Blank (u ++ v) := by
  intro c hc
  rcases List.mem_append.mp hc with h | h
  · exact hu c h
  · exact hv c h

theorem blank_reverse {u : List Char} (hu : Blank u) : Blank u.reverse :=
  fun c hc => hu c (List.mem_reverse.mp hc)

theorem blank_takeWhile (cs : List Char) : Blank (cs.takeWhile isBlank) :=
  fun c hc => (isBlank_iff c).mp (List.mem_takeWhile_imp hc)

/-- What is left of a text behind the blanks in front. -/
theorem dropWhile_blank {u rest : List Char} (hu : Blank u)
    (hrest : ∀ c ∈ rest.head?, ¬ WhiteSpace c) : (u ++ rest).dropWhile isBlank = rest := by
  rw [List.dropWhile_append_of_pos fun c hc => (isBlank_iff c).mpr (hu c hc)]
  cases rest with
  | nil => rfl
  | cons c cs =>
    have hc : ¬ isBlank c = true := mt (isBlank_iff c).mp (hrest c rfl)
    exact List.dropWhile_cons_of_neg hc

theorem exists_blanks_trim (cs : List Char) :
    ∃ u v, Blank u ∧ Blank v ∧ cs = u ++ trim cs ++ v := by
  -- the blanks behind are those in front of the reversed rest
  let rest := cs.dropWhile isBlank
  refine ⟨cs.takeWhile isBlank, (rest.reverse.takeWhile isBlank).reverse,
    blank_takeWhile cs, blank_reverse (blank_takeWhile _), ?_⟩
  have hfront : cs = cs.takeWhile isBlank ++ rest := List.takeWhile_append_dropWhile.symm
  have hback : rest = trim cs ++ (rest.reverse.takeWhile isBlank).reverse := by
    have hsplit : rest.reverse.takeWhile isBlank ++ rest.reverse.dropWhile isBlank =
        rest.reverse := List.takeWhile_append_dropWhile
    rw [trim, ← List.reverse_append, hsplit, List.reverse_reverse]
  rw [List.append_assoc, ← hback]
  exact hfront

/-- All blanks around a text are taken off that neither begins nor ends with one. -/
theorem trim_between {u body v : List Char} (hu : Blank u) (hv : Blank v)
    (hhead : ∀ c ∈ body.head?, ¬ WhiteSpace c) (hlast : ∀ c ∈ body.getLast?, ¬ WhiteSpace c) :
    trim (u ++ body ++ v) = body := by
  unfold trim
  by_cases hbody : body = []
  · -- then all of it is in front
    subst hbody
    have hall : ((u ++ v) ++ []).dropWhile isBlank = [] :=
      dropWhile_blank (blank_append hu hv) nofun
    rw [List.append_nil] at hall
    rw [List.append_nil, hall]
    rfl
  -- the blanks in front first; those at the end are in front of the reversed text
  · have hfront : (u ++ body ++ v).dropWhile isBlank = body ++ v := by
      rw [List.append_assoc]
      apply dropWhile_blank hu
      intro c hc
      rw [List.head?_append_of_ne_nil _ hbody] at hc
      exact hhead c hc
    have hback : (v.reverse ++ body.reverse).dropWhile isBlank = body.reverse := by
      apply dropWhile_blank (blank_reverse hv)
      intro c hc
      rw [List.head?_reverse] at hc
      exact hlast c hc
    rw [hfront, List.reverse_append, hback, List.reverse_reverse]

/-! ### Numerals -/

/-- One or more ASCII digits; those in front may be zeros. -/
structure Digits (cs : List Char) : Prop where
  ne_nil : cs ≠ []
  isDigit : ∀ c ∈ cs, c.isDigit = true

/-- A numeral and its value: a sign may stand before the digits. -/
inductive Numeral : List Char → Int → Prop where
  | unsigned {digits} : Digits digits → Numeral digits (Nat.ofDigitChars 10 digits 0)
  | plus {digits} : Digits digits → Numeral ('+' :: digits) (Nat.ofDigitChars 10 digits 0)
  | minus {digits} : Digits digits → Numeral ('-' :: digits) (-Nat.ofDigitChars 10 digits 0)

theorem digit?_eq_some_iff (c : Char) (d : Nat) :
    digit? c = some d ↔ c.isDigit = true ∧ d = c.toNat - '0'.toNat := by
  have hdigit : c.isDigit = true ↔ '0' ≤ c ∧ c ≤ '9' := Char.isDigit_iff_toNat
  unfold digit?
  rw [hdigit]
  split
  · next h =>
    rw [Option.some.injEq]
    exact ⟨fun hd => ⟨h, hd.symm⟩, fun hd => hd.2.symm⟩
  · next h => exact ⟨nofun, fun hd => absurd hd.1 h⟩

/-- Digits after those of a number are read if they are digits, with the value they have
    behind it. -/
theorem digitsFrom?_eq_some_iff (n m : Nat) (cs : List Char) :
    digitsFrom? n cs = some m ↔
      (∀ c ∈ cs, c.isDigit = true) ∧ m = Nat.ofDigitChars 10 cs n := by
  induction cs generalizing n with
  | nil =>
    rw [digitsFrom?, Nat.ofDigitChars_nil, Option.some.injEq]
    exact ⟨fun h => ⟨nofun, h.symm⟩, fun h => h.2.symm⟩
  | cons c cs ih =>
    unfold digitsFrom?
    cases hd : digit? c with
    | none =>
      have hc : ¬ c.isDigit = true := by
        intro hc
        have hsome := (digit?_eq_some_iff c _).mpr ⟨hc, rfl⟩
        rw [hd] at hsome
        cases hsome
      simp [hc]
    | some d =>
      obtain ⟨hc, rfl⟩ := (digit?_eq_some_iff c d).mp hd
      -- the value of the digit is added behind those read, on both sides
      simp only [ih, List.mem_cons, forall_eq_or_imp, hc, true_and, Nat.ofDigitChars_cons]

/-- Unsigned numerals are read, and nothing else. -/
theorem natural?_eq_some_iff (cs : List Char) (m : Nat) :
    natural? cs = some m ↔ Digits cs ∧ m = Nat.ofDigitChars 10 cs 0 := by
  cases cs with
  | nil => exact ⟨nofun, fun h => absurd rfl h.1.ne_nil⟩
  | cons c cs =>
    rw [natural?, digitsFrom?_eq_some_iff]
    constructor
    · rintro ⟨hall, rfl⟩
      exact ⟨⟨List.cons_ne_nil c cs, hall⟩, rfl⟩
    · rintro ⟨hdigits, rfl⟩
      exact ⟨hdigits.isDigit, rfl⟩

theorem Digits.head_ne {c : Char} {cs : List Char} (h : Digits (c :: cs)) :
    c ≠ '-' ∧ c ≠ '+' := by
  have hc := h.isDigit c List.mem_cons_self
  constructor
  · rintro rfl
    exact absurd hc (by decide)
  · rintro rfl
    exact absurd hc (by decide)

theorem integer?_cons (c : Char) (cs : List Char) : integer? (c :: cs) =
    if c = '-' then (natural? cs).map fun m : Nat => -(m : Int)
    else if c = '+' then (natural? cs).map fun m : Nat => (m : Int)
    else (natural? (c :: cs)).map fun m : Nat => (m : Int) := by
  rw [integer?]
  cases natural? cs <;> cases natural? (c :: cs) <;> rfl

/-- **Reading a numeral.** Numerals are read as their value, and nothing else is read. -/
theorem integer?_eq_some_iff (cs : List Char) (n : Int) :
    integer? cs = some n ↔ Numeral cs n := by
  constructor
  · intro h
    -- the first character decides which of the three readings is tried
    cases cs with
    | nil => cases h
    | cons c cs =>
      rw [integer?_cons] at h
      split at h
      · next hc =>
        obtain ⟨m, hm, rfl⟩ := Option.map_eq_some_iff.mp h
        obtain ⟨hdigits, rfl⟩ := (natural?_eq_some_iff cs m).mp hm
        exact hc ▸ .minus hdigits
      · split at h
        · next hc =>
          obtain ⟨m, hm, rfl⟩ := Option.map_eq_some_iff.mp h
          obtain ⟨hdigits, rfl⟩ := (natural?_eq_some_iff cs m).mp hm
          exact hc ▸ .plus hdigits
        · obtain ⟨m, hm, rfl⟩ := Option.map_eq_some_iff.mp h
          obtain ⟨hdigits, rfl⟩ := (natural?_eq_some_iff (c :: cs) m).mp hm
          exact .unsigned hdigits
  · intro h
    cases h with
    | unsigned hdigits =>
      cases cs with
      | nil => exact absurd rfl hdigits.ne_nil
      | cons c cs =>
        obtain ⟨hminus, hplus⟩ := hdigits.head_ne
        have hread := (natural?_eq_some_iff (c :: cs) _).mpr ⟨hdigits, rfl⟩
        rw [integer?_cons, if_neg hminus, if_neg hplus, hread]
        rfl
    | plus hdigits =>
      have hread := (natural?_eq_some_iff _ _).mpr ⟨hdigits, rfl⟩
      rw [integer?_cons, if_neg (by decide), if_pos rfl, hread]
      rfl
    | minus hdigits =>
      have hread := (natural?_eq_some_iff _ _).mpr ⟨hdigits, rfl⟩
      rw [integer?_cons, if_pos rfl, hread]
      rfl

theorem not_whiteSpace_of_isDigit {c : Char} (h : c.isDigit = true) : ¬ WhiteSpace c := by
  have hrange : 48 ≤ c.toNat ∧ c.toNat ≤ 57 := Char.isDigit_iff_toNat.mp h
  unfold WhiteSpace
  omega

theorem Numeral.ends {cs : List Char} {n : Int} (h : Numeral cs n) :
    (∀ c ∈ cs.head?, ¬ WhiteSpace c) ∧ ∀ c ∈ cs.getLast?, ¬ WhiteSpace c := by
  -- the last character is a digit in any case, the first one a digit or a sign
  have hlast {digits : List Char} (hdigits : Digits digits) :
      ∀ c ∈ digits.getLast?, ¬ WhiteSpace c := fun c hc =>
    not_whiteSpace_of_isDigit (hdigits.isDigit c (List.mem_of_getLast? hc))
  have hsigned {sign : Char} {digits : List Char} (hdigits : Digits digits) :
      (sign :: digits).getLast? = digits.getLast? :=
    List.getLast?_cons_of_ne_nil hdigits.ne_nil
  cases h with
  | unsigned hdigits =>
    refine ⟨fun c hc => ?_, hlast hdigits⟩
    exact not_whiteSpace_of_isDigit (hdigits.isDigit c (List.mem_of_mem_head? hc))
  | plus hdigits =>
    refine ⟨fun c hc => ?_, hsigned hdigits ▸ hlast hdigits⟩
    obtain rfl := Option.some.inj hc
    unfold WhiteSpace
    decide
  | minus hdigits =>
    refine ⟨fun c hc => ?_, hsigned hdigits ▸ hlast hdigits⟩
    obtain rfl := Option.some.inj hc
    unfold WhiteSpace
    decide

/-! ### Texts of numbers -/

/-- Whether a text is one of a number: its numeral between blanks. -/
def Spells (cs : List Char) (n : Int) : Prop :=
  ∃ u body v, Blank u ∧ Blank v ∧ cs = u ++ body ++ v ∧ Numeral body n

/-- **Reading a text.** What is read between the blanks at both ends is what the text
    spells. -/
theorem integer?_trim_iff (cs : List Char) (n : Int) :
    integer? (trim cs) = some n ↔ Spells cs n := by
  rw [integer?_eq_some_iff]
  constructor
  · intro h
    obtain ⟨u, v, hu, hv, hcs⟩ := exists_blanks_trim cs
    exact ⟨u, trim cs, v, hu, hv, hcs, h⟩
  · rintro ⟨u, body, v, hu, hv, rfl, h⟩
    rwa [trim_between hu hv h.ends.1 h.ends.2]

theorem Spells.unique {cs : List Char} {n m : Int} (hn : Spells cs n) (hm : Spells cs m) :
    n = m := by
  rw [← integer?_trim_iff] at hn hm
  exact Option.some.inj (hn.symm.trans hm)

theorem not_spells_of_blank {cs : List Char} (h : Blank cs) (n : Int) : ¬ Spells cs n := by
  intro hspells
  have htrim : trim cs = [] := by
    have hbetween : trim (cs ++ [] ++ []) = [] := trim_between h nofun nofun nofun
    rwa [List.append_nil, List.append_nil] at hbetween
  rw [← integer?_trim_iff, htrim] at hspells
  cases hspells

theorem digits_toDigits (n : Nat) : Digits (Nat.toDigits 10 n) :=
  ⟨Nat.toDigits_ne_nil, fun _ hc => Nat.isDigit_of_mem_toDigits (by decide) (by decide) hc⟩

theorem numeral_numeral (n : Int) : Numeral (numeral n).toList n := by
  unfold numeral
  rw [Int.toString_eq_repr, Int.repr_eq_if]
  split
  · next h =>
    have hvalue := Numeral.unsigned (digits_toDigits n.toNat)
    rw [Nat.ofDigitChars_ten_toDigits, Int.toNat_of_nonneg h] at hvalue
    rwa [Nat.toList_repr]
  · next h =>
    have hvalue := Numeral.minus (digits_toDigits (-n).toNat)
    rw [Nat.ofDigitChars_ten_toDigits, Int.toNat_of_nonneg (by omega), Int.neg_neg] at hvalue
    rwa [String.toList_append, Nat.toList_repr]

/-- The decimal form of an integer spells it, between any blanks. -/
theorem spells_numeral {u v : String} (hu : Blank u.toList) (hv : Blank v.toList) (n : Int) :
    Spells (u ++ numeral n ++ v).toList n := by
  rw [String.toList_append, String.toList_append]
  exact ⟨u.toList, _, v.toList, hu, hv, rfl, numeral_numeral n⟩

end ConsumerPool.Text
