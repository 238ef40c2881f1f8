import BearerClient.Text.Blank
import BearerClient.Text.Integer

/-!
# Numbers in decimal

A natural number is read from its decimal digits, with or without a plus sign, and from nothing
else.  Leading zeros do no harm, however many there are: only the value has to be in range.
-/

namespace BearerClient.Text

/-! ## Digits -/

/-- Decimal digits, and the number that they stand for. -/
structure Denotes (digits : List Char) (n : Nat) : Prop where
  nonempty : digits ≠ []
  isDigit : ∀ c ∈ digits, c.isDigit = true
  value : Nat.ofDigitChars 10 digits 0 = n

theorem denotes_toDigits (n : Nat) : Denotes (Nat.toDigits 10 n) n where
  nonempty := Nat.toDigits_ne_nil
  isDigit := fun _ hc => Nat.isDigit_of_mem_toDigits (by decide) (by decide) hc
  value := Nat.ofDigitChars_ten_toDigits

theorem toDigits_head_zero (n : Nat) (hzero : (Nat.toDigits 10 n).head? = some '0') : n = 0 := by
  induction n using Nat.strongRecOn with
  | _ n ih =>
      by_cases hsmall : n < 10
      · rw [Nat.toDigits_of_lt_base hsmall] at hzero
        simpa using hzero
      · have hle : 10 ≤ n := Nat.le_of_not_lt hsmall
        obtain ⟨c, chars, hchars⟩ := List.exists_cons_of_ne_nil
          (Nat.toDigits_ne_nil (n := n / 10) (b := 10))
        rw [Nat.toDigits_of_base_le (by decide) hle, hchars] at hzero
        have hdiv := ih (n / 10) (by omega) (by rw [hchars]; exact hzero)
        omega

theorem le_ofDigitChars (digits : List Char) (start : Nat) :
    start ≤ Nat.ofDigitChars 10 digits start := by
  rw [Nat.ofDigitChars_eq_ofDigitChars_zero]
  exact Nat.le_add_right_of_le (Nat.le_mul_of_pos_left _ (Nat.pow_pos (by decide)))

theorem isDigit_iff {c : Char} : c.isDigit = true ↔ '0' ≤ c ∧ c ≤ '9' := by
  simp [Char.isDigit, Char.le_def]

theorem toNat_of_isDigit {c : Char} (hc : c.isDigit = true) : 48 ≤ c.toNat ∧ c.toNat ≤ 57 := by
  simpa [Char.isDigit, UInt32.le_iff_toNat_le] using hc

theorem digit?_of_isDigit {c : Char} (hc : c.isDigit = true) :
    digit? c = some (c.toNat - '0'.toNat) :=
  if_pos (isDigit_iff.1 hc)

theorem digit?_eq_none {c : Char} (hc : ¬ c.isDigit = true) : digit? c = none :=
  if_neg (mt isDigit_iff.2 hc)

variable {limit n : Nat} {beyond : IntegerFault} {digits : List Char}

/-- The digits read so far never stand for more than all of them do, so the value leaves the range
on the way exactly if it is out of range in the end. -/
theorem readDigits_eq_ok_iff {start : Nat} (hstart : start ≤ limit) :
    readDigits limit beyond start digits = .ok n ↔
      (∀ c ∈ digits, c.isDigit = true) ∧ Nat.ofDigitChars 10 digits start = n ∧ n ≤ limit := by
  induction digits generalizing start with
  | nil =>
      simp only [readDigits, Except.ok.injEq, List.not_mem_nil, false_implies, implies_true,
        Nat.ofDigitChars_nil, true_and]
      exact ⟨fun hn => ⟨hn, hn ▸ hstart⟩, And.left⟩
  | cons c rest ih =>
      rw [readDigits, List.forall_mem_cons, Nat.ofDigitChars_cons]
      by_cases hc : c.isDigit = true
      · rw [digit?_of_isDigit hc]
        dsimp only
        split
        case isTrue hle => rw [ih hle, and_iff_right hc]
        case isFalse hbeyond =>
          have hgrows := le_ofDigitChars rest (10 * start + (c.toNat - '0'.toNat))
          constructor
          · intro hread
            cases hread
          · rintro ⟨-, hvalue, hle⟩
            exact absurd (hvalue ▸ hgrows) (by omega)
      · rw [digit?_eq_none hc]
        constructor
        · intro hread
          cases hread
        · exact fun hall => absurd hall.1.1 hc

theorem readMagnitude_eq_ok_iff :
    readMagnitude limit beyond digits = .ok n ↔ Denotes digits n ∧ n ≤ limit := by
  cases digits with
  | nil =>
      constructor
      · intro hread
        cases hread
      · exact fun hdenotes => absurd rfl hdenotes.1.nonempty
  | cons c rest =>
      rw [readMagnitude.eq_2 _ _ _ (List.cons_ne_nil _ _), readDigits_eq_ok_iff (Nat.zero_le _)]
      constructor
      · rintro ⟨hdigits, hvalue, hle⟩
        exact ⟨⟨List.cons_ne_nil _ _, hdigits, hvalue⟩, hle⟩
      · exact fun ⟨hdenotes, hle⟩ => ⟨hdenotes.isDigit, hdenotes.value, hle⟩

/-! ## Whole texts -/

/-- A natural number in decimal, with or without a plus sign. -/
def Decimal (text : List Char) (n : Nat) : Prop :=
  Denotes text n ∨ ∃ digits, text = '+' :: digits ∧ Denotes digits n

theorem decimal_toDigits (n : Nat) : Decimal (Nat.toDigits 10 n) n := .inl (denotes_toDigits n)

theorem decimal_plus {digits : List Char} : Decimal ('+' :: digits) n ↔ Denotes digits n := by
  constructor
  · rintro (hsign | ⟨_, heq, hdigits⟩)
    · exact absurd (hsign.isDigit '+' List.mem_cons_self) (by decide)
    · cases heq
      exact hdigits
  · exact fun hdigits => .inr ⟨digits, rfl, hdigits⟩

theorem decimal_of_ne_plus {text : List Char} (hplus : ∀ digits, text ≠ '+' :: digits) :
    Decimal text n ↔ Denotes text n :=
  or_iff_left fun ⟨digits, heq, _⟩ => hplus digits heq

theorem not_decimal_minus {digits : List Char} : ¬ Decimal ('-' :: digits) n := by
  rw [decimal_of_ne_plus (by simp)]
  exact fun hsign => absurd (hsign.isDigit '-' List.mem_cons_self) (by decide)

theorem readUnsigned_eq_ok_iff {bits : Nat} {text : String} :
    readUnsigned bits text = .ok n ↔ Decimal text.toList n ∧ n < Nat.pow 2 bits := by
  have hpos : 0 < Nat.pow 2 bits := Nat.pow_pos (by decide)
  have hlimit : n ≤ (Nat.pow 2 bits - 1 : Nat) ↔ n < Nat.pow 2 bits := Nat.le_sub_one_iff_lt hpos
  have hmagnitude : ∀ digits,
      ((readMagnitude ((Nat.pow 2 bits - 1 : Nat) : Int).toNat .tooLarge digits).map
        Int.ofNat).map Int.toNat = .ok n ↔ Denotes digits n ∧ n < Nat.pow 2 bits := by
    intro digits
    have hread : readMagnitude (Nat.pow 2 bits - 1) .tooLarge digits = .ok n ↔
        Denotes digits n ∧ n ≤ Nat.pow 2 bits - 1 := readMagnitude_eq_ok_iff
    rw [Int.toNat_natCast, ← hlimit, ← hread]
    cases readMagnitude (Nat.pow 2 bits - 1) .tooLarge digits <;> simp [Except.map]
  unfold readUnsigned readInteger
  split
  case h_1 hempty =>
    rw [hempty, decimal_of_ne_plus (by simp)]
    constructor
    · intro hread
      cases hread
    · exact fun hdenotes => absurd rfl hdenotes.1.nonempty
  case h_2 digits hplus => rw [hplus, decimal_plus, hmagnitude]
  case h_3 digits hminus =>
    rw [hminus, if_neg (by decide)]
    constructor
    · intro hread
      cases hread
    · exact fun hdecimal => absurd hdecimal.1 not_decimal_minus
  case h_4 hplus _ => rw [decimal_of_ne_plus hplus, hmagnitude]

/-! ## White space around a text -/

theorem dropWhile_before {drop : Char → Bool} {before rest : List Char}
    (hbefore : ∀ c ∈ before, drop c = true) (hrest : ∀ c ∈ rest.head?, drop c = false) :
    (before ++ rest).dropWhile drop = rest := by
  rw [List.dropWhile_append_of_pos hbefore]
  cases rest with
  | nil => rfl
  | cons c rest => exact List.dropWhile_cons_of_neg (by simp [hrest c rfl])

theorem takeWhile_before {take : Char → Bool} {before rest : List Char}
    (hbefore : ∀ c ∈ before, take c = true) (hrest : ∀ c ∈ rest.head?, take c = false) :
    (before ++ rest).takeWhile take = before := by
  rw [List.takeWhile_append_of_pos hbefore]
  cases rest with
  | nil => simp
  | cons c rest => simp [hrest c rfl]

theorem trimBy_surrounded {drop : Char → Bool} {before text after : List Char}
    (hbefore : ∀ c ∈ before, drop c = true) (htext : ∀ c ∈ text, drop c = false)
    (hafter : ∀ c ∈ after, drop c = true) : trimBy drop (before ++ text ++ after) = text := by
  cases text with
  | nil =>
      rw [trimBy_eq_nil_iff, List.append_nil]
      exact List.forall_mem_append.2 ⟨hbefore, hafter⟩
  | cons c rest =>
      have hfirst : ((before ++ (c :: rest ++ after)).dropWhile drop) = c :: rest ++ after :=
        dropWhile_before hbefore (by simpa using htext c List.mem_cons_self)
      have hlast : ((after.reverse ++ (c :: rest).reverse).dropWhile drop) = (c :: rest).reverse :=
        dropWhile_before (by simpa using hafter)
          (fun d hd => htext d (List.mem_reverse.1 (List.mem_of_head? hd)))
      rw [trimBy, List.append_assoc, hfirst, List.reverse_append, hlast, List.reverse_reverse]

theorem isBlankChar_of_isDigit {c : Char} (hc : c.isDigit = true) : isBlankChar c = false := by
  have hrange := toNat_of_isDigit hc
  simp only [isBlankChar, inRanges, blankRanges, List.any_cons, List.any_nil, Bool.or_false,
    Bool.or_eq_false_iff, Bool.and_eq_false_iff, decide_eq_false_iff_not]
  omega

/-- The decimal digits of a number, with or without white space around them. -/
def Padded (text : String) (n : Nat) : Prop :=
  ∃ before after, text.toList = before ++ Nat.toDigits 10 n ++ after ∧
    (∀ c ∈ before, isBlankChar c = true) ∧ ∀ c ∈ after, isBlankChar c = true

variable {text : String}

theorem Padded.trim_eq (hpadded : Padded text n) :
    (trim text).toList = Nat.toDigits 10 n := by
  obtain ⟨before, after, htext, hbefore, hafter⟩ := hpadded
  rw [trim, String.toList_ofList, htext]
  exact trimBy_surrounded hbefore
    (fun c hc => isBlankChar_of_isDigit ((denotes_toDigits n).isDigit c hc)) hafter

theorem Padded.isBlank_eq (hpadded : Padded text n) : isBlank text = false := by
  rw [← Bool.not_eq_true, ← trim_eq_empty_iff, ← String.toList_inj, hpadded.trim_eq]
  exact Nat.toDigits_ne_nil

end BearerClient.Text
