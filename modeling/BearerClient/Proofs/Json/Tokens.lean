import BearerClient.Proofs.Json.Escape
import BearerClient.Proofs.Json.Reading
import BearerClient.Proofs.Text.Integer
import BearerClient.Proofs.Text.ReadBack

/-!
# Written strings and integers are read back

Each escape denotes the character it was written for, and a character that is written as itself
has no octet that means anything in a string.  So a written string is read back as its text.

An integer is written in decimal without leading zeros.  Where 64 bits hold it, the reader takes
all of its digits into the significand, and the integer is read back exactly.
-/

namespace BearerClient.Json

open Scan

variable {input rest content : Bytes}

/-! ## Octets of characters -/

/-- The octets of characters. -/
def encoded (chars : List Char) : Bytes := chars.flatMap String.utf8EncodeChar

theorem utf8_ofList (chars : List Char) : Text.utf8 (String.ofList chars) = encoded chars := by
  rw [Text.utf8, String.toList_ofList, encoded]

@[simp] theorem encoded_append (first second : List Char) :
    encoded (first ++ second) = encoded first ++ encoded second := by
  simp [encoded]

theorem encoded_cons (c : Char) (chars : List Char) :
    encoded (c :: chars) = String.utf8EncodeChar c ++ encoded chars := rfl

@[simp] theorem encoded_nil : encoded [] = [] := rfl

theorem encodeChar_ascii {c : Char} (hc : c.toNat < 0x80) :
    String.utf8EncodeChar c = [.ofNat c.toNat] := by
  rw [Text.Utf8.encodeChar_eq, if_pos (Nat.le_of_lt_succ hc)]

theorem encoded_cons_ascii {c : Char} (hc : c.toNat < 0x80) (chars : List Char) :
    encoded (c :: chars) = .ofNat c.toNat :: encoded chars := by
  rw [encoded_cons, encodeChar_ascii hc]
  rfl

theorem encoded_ascii {chars : List Char} (hchars : ∀ c ∈ chars, c.toNat < 0x80) :
    encoded chars = chars.map fun c => .ofNat c.toNat := by
  induction chars with
  | nil => rfl
  | cons c chars ih =>
      rw [List.forall_mem_cons] at hchars
      rw [encoded_cons_ascii hchars.1, ih hchars.2]
      rfl

/-- No octet of a character beyond ASCII is an octet of ASCII. -/
theorem le_of_mem_encodeChar {c : Char} (hc : 0x80 ≤ c.toNat) {b : UInt8}
    (hb : b ∈ String.utf8EncodeChar c) : 0x80 ≤ b.toNat := by
  have hvalid : c.toNat < 0x110000 := by
    rcases c.valid with h | h
    · exact Nat.lt_trans h (by decide)
    · exact h.2
  have htail : ∀ n, 0x80 ≤ (Text.Utf8.tailOctet n).toNat := fun n => by
    rw [Text.Utf8.toNat_tailOctet]
    omega
  rw [Text.Utf8.encodeChar_eq, if_neg (by omega)] at hb
  split at hb
  · rcases List.mem_cons.1 hb with rfl | hb
    · rw [UInt8.toNat_ofNat']
      omega
    · rw [List.mem_singleton.1 hb]
      exact htail _
  split at hb
  · rcases List.mem_cons.1 hb with rfl | hb
    · rw [UInt8.toNat_ofNat']
      omega
    · simp only [List.mem_cons, List.not_mem_nil, or_false] at hb
      rcases hb with rfl | rfl <;> exact htail _
  · rcases List.mem_cons.1 hb with rfl | hb
    · rw [UInt8.toNat_ofNat']
      omega
    · simp only [List.mem_cons, List.not_mem_nil, or_false] at hb
      rcases hb with rfl | rfl | rfl <;> exact htail _

/-! ## Strings -/

/-- An octet that stands for itself inside a string. -/
def Plain (b : UInt8) : Prop := b ≠ 0x22 ∧ b ≠ 0x5C ∧ ¬b < 0x20

theorem stringFrom_plain {escape : EscapeRule} {octets : Bytes} (hplain : ∀ b ∈ octets, Plain b)
    (hrest : stringFrom escape 0 input = .ok (content, rest)) :
    stringFrom escape 0 (octets ++ input) = .ok (octets ++ content, rest) := by
  induction octets with
  | nil => exact hrest
  | cons b octets ih =>
      rw [List.forall_mem_cons] at hplain
      obtain ⟨⟨hquote, hslash, hcontrol⟩, hplain⟩ := hplain
      exact stringFrom_eq_ok_iff.2 (.plain hquote hslash hcontrol (ih hplain))

theorem encodeChar_plain {c : Char} (hslash : c ≠ '\\') (hquote : c ≠ '"')
    (hcontrol : ¬c.toNat < 0x20) : ∀ b ∈ String.utf8EncodeChar c, Plain b := by
  intro b hb
  have hchar : ∀ d : Char, c.toNat = d.toNat → c = d := fun d => Write.toNat_injective
  by_cases hc : c.toNat < 0x80
  · rw [encodeChar_ascii hc, List.mem_singleton] at hb
    have hnat : b.toNat = c.toNat := by
      rw [hb, UInt8.toNat_ofNat']
      omega
    refine ⟨fun h => ?_, fun h => ?_, fun h => ?_⟩
    · rw [h] at hnat
      exact hquote (hchar _ hnat.symm)
    · rw [h] at hnat
      exact hslash (hchar _ hnat.symm)
    · rw [UInt8.lt_iff_toNat_lt, hnat] at h
      exact hcontrol h
  · have hnat := le_of_mem_encodeChar (Nat.le_of_not_lt hc) hb
    refine ⟨fun h => ?_, fun h => ?_, fun h => ?_⟩
    · rw [h] at hnat
      exact absurd hnat (by decide)
    · rw [h] at hnat
      exact absurd hnat (by decide)
    · rw [UInt8.lt_iff_toNat_lt] at h
      exact absurd (Nat.lt_of_le_of_lt hnat h) (by decide)

theorem hexDigit?_hexDigit {n : Nat} (hn : n < 16) :
    (Write.hexDigit n).toNat < 0x80 ∧ hexDigit? (.ofNat (Write.hexDigit n).toNat) = some n := by
  have hall : ∀ n < 16, (Write.hexDigit n).toNat < 0x80 ∧
      hexDigit? (.ofNat (Write.hexDigit n).toNat) = some n := by decide
  exact hall n hn

theorem strictEscape_short {c letter : Char} (hc : (c, letter) ∈ Write.shortEscapes) :
    letter.toNat < 0x80 ∧ c.toNat < 0x80 ∧
      ∀ input, strictEscape (.ofNat letter.toNat :: input) = .ok ([.ofNat c.toNat], 1) := by
  have hall : ∀ pair ∈ Write.shortEscapes, pair.2.toNat < 0x80 ∧ pair.1.toNat < 0x80 ∧
      UInt8.ofNat pair.2.toNat ≠ 0x75 ∧
      Scan.shortEscape? (.ofNat pair.2.toNat) = some (.ofNat pair.1.toNat) := by decide
  obtain ⟨hletter, hchar, hshort, hoctet⟩ := hall _ hc
  refine ⟨hletter, hchar, fun input => ?_⟩
  dsimp only at hshort hoctet
  rw [strictEscape, if_neg hshort, hoctet]

theorem strictEscape_control {n : Nat} (hn : n < 0x20) (input : Bytes) :
    strictEscape (0x75 :: 0x30 :: 0x30 :: .ofNat (Write.hexDigit (n / 16)).toNat ::
      .ofNat (Write.hexDigit (n % 16)).toNat :: input) =
      .ok (String.utf8EncodeChar (Char.ofNat n), 5) := by
  have hhex : hex4 (0x30 :: 0x30 :: .ofNat (Write.hexDigit (n / 16)).toNat ::
      .ofNat (Write.hexDigit (n % 16)).toNat :: input) = .ok n := by
    have hzero : hexDigit? 0x30 = some 0 := by decide
    simp only [hex4, hzero, (hexDigit?_hexDigit (n := n / 16) (by omega)).2,
      (hexDigit?_hexDigit (n := n % 16) (by omega)).2]
    congr 1
    omega
  rw [strictEscape, if_pos rfl, hhex]
  change (if 0xDC00 ≤ n ∧ n ≤ 0xDFFF then _ else _) = _
  rw [if_neg (by omega), if_pos (by omega)]

/-- A character that is written in a string is read back. -/
theorem stringFrom_escaped (c : Char)
    (hrest : stringFrom strictEscape 0 input = .ok (content, rest)) :
    stringFrom strictEscape 0 (encoded (Write.escaped c) ++ input) =
      .ok (String.utf8EncodeChar c ++ content, rest) := by
  rcases Write.escaped_cases c with ⟨letter, hshort, hc⟩ | ⟨hcontrol, hc⟩ | ⟨hslash, hquote, hc⟩
  · obtain ⟨hletter, hchar, hescape⟩ := strictEscape_short hshort
    rw [hc, encoded_cons_ascii (by decide), encoded_cons_ascii hletter, encodeChar_ascii hchar]
    exact stringFrom_eq_ok_iff.2 (.escape (hescape input) hrest)
  · obtain ⟨hhigh, -⟩ := hexDigit?_hexDigit (n := c.toNat / 16) (by omega)
    obtain ⟨hlow, -⟩ := hexDigit?_hexDigit (n := c.toNat % 16) (by omega)
    have hescape := strictEscape_control hcontrol input
    rw [Char.ofNat_toNat] at hescape
    rw [hc]
    simp only [encoded_cons_ascii (c := '\\') (by decide), encoded_cons_ascii (c := 'u') (by decide),
      encoded_cons_ascii (c := '0') (by decide), encoded_cons_ascii hhigh, encoded_cons_ascii hlow]
    exact stringFrom_eq_ok_iff.2 (.escape hescape hrest)
  · have hcontrol : ¬c.toNat < 0x20 := by
      intro hlow
      have hlength := congrArg List.length hc
      unfold Write.escaped at hlength
      cases hshort : Write.shortEscape? c with
      | some letter => simp [hshort] at hlength
      | none => simp [hshort, hlow] at hlength
    rw [hc, encoded_cons, encoded_nil, List.append_nil]
    exact stringFrom_plain (encodeChar_plain hslash hquote hcontrol) hrest

/-- A text that is written as a string is read back, whatever follows. -/
theorem stringBody_written (text : String) (rest : Bytes) :
    stringBody (encoded (text.toList.flatMap Write.escaped) ++ 0x22 :: rest) =
      .ok (text, rest) := by
  have hcontent : stringFrom strictEscape 0
      (encoded (text.toList.flatMap Write.escaped) ++ 0x22 :: rest) =
      .ok (Text.utf8 text, rest) := by
    unfold Text.utf8
    induction text.toList with
    | nil => exact stringFrom_eq_ok_iff.2 (.quote rest)
    | cons c chars ih =>
        rw [List.flatMap_cons, List.flatMap_cons, encoded_append, List.append_assoc]
        exact stringFrom_escaped c ih
  refine except_bind_eq_ok.2 ⟨_, hcontent, ?_⟩
  dsimp only
  rw [Text.Utf8.decode_utf8]

/-! ## Integers -/

/-- Nothing that goes on with a number follows. -/
def NumberEnds (rest : Bytes) : Prop :=
  ∀ b, rest.head? = some b → isDigit b = false ∧ b ≠ 0x2E ∧ b ≠ 0x65 ∧ b ≠ 0x45

theorem toNat_of_mem_toDigits {n : Nat} {c : Char} (hc : c ∈ Nat.toDigits 10 n) :
    48 ≤ c.toNat ∧ c.toNat ≤ 57 :=
  Text.toNat_of_isDigit ((Text.denotes_toDigits n).isDigit c hc)

/-- The octets of a number in decimal. -/
def decimal (n : Nat) : Bytes := (Nat.toDigits 10 n).map fun c => .ofNat c.toNat

theorem toDigits_ascii (n : Nat) : ∀ c ∈ Nat.toDigits 10 n, c.toNat < 0x80 := by
  intro c hc
  have hrange := toNat_of_mem_toDigits hc
  omega

theorem encoded_toDigits (n : Nat) : encoded (Nat.toDigits 10 n) = decimal n :=
  encoded_ascii (toDigits_ascii n)

theorem decimal_ne_nil (n : Nat) : decimal n ≠ [] := by
  simp [decimal, Nat.toDigits_ne_nil]

theorem isDigit_of_mem_decimal {n : Nat} {b : UInt8} (hb : b ∈ decimal n) : isDigit b = true := by
  obtain ⟨c, hc, rfl⟩ := List.mem_map.1 hb
  have hrange := toNat_of_mem_toDigits hc
  simp only [isDigit, Bool.and_eq_true, decide_eq_true_eq, UInt8.le_iff_toNat_le,
    UInt8.toNat_ofNat', UInt8.reduceToNat]
  omega

theorem length_of_decimal_head {n : Nat} (hzero : (decimal n).head? = some 0x30) :
    (decimal n).length = 1 := by
  have hn : n = 0 := by
    rw [decimal, List.head?_map, Option.map_eq_some_iff] at hzero
    obtain ⟨c, hc, hoctet⟩ := hzero
    have hrange := toNat_of_mem_toDigits (List.mem_of_head? hc)
    have hnat : c.toNat = 48 := by
      have hsame := congrArg UInt8.toNat hoctet
      rw [UInt8.toNat_ofNat'] at hsame
      change c.toNat % 256 = 48 at hsame
      omega
    rw [Write.toNat_injective (d := '0') hnat] at hc
    exact Text.toDigits_head_zero n hc
  rw [hn]
  rfl

theorem digits_append {ds : Bytes} (hsome : ds ≠ []) (hds : ∀ b ∈ ds, isDigit b = true)
    (hends : NumberEnds rest) : digits (ds ++ rest) = .ok (ds, rest) := by
  have htake : (ds ++ rest).takeWhile isDigit = ds ∧ (ds ++ rest).dropWhile isDigit = rest := by
    rw [List.takeWhile_append_of_pos hds, List.dropWhile_append_of_pos hds]
    cases rest with
    | nil => simp
    | cons b rest => simp [(hends b rfl).1]
  unfold digits
  rw [htake.1, htake.2]
  cases ds with
  | nil => exact absurd rfl hsome
  | cons b ds => rfl

theorem numberParts_decimal (n : Nat) (hends : NumberEnds rest) :
    numberParts (decimal n ++ rest) = .ok (⟨decimal n, none, none⟩, rest) := by
  have hdigits := digits_append (decimal_ne_nil n) (fun b hb => isDigit_of_mem_decimal hb) hends
  have hwhole : wholeDigits (decimal n ++ rest) = .ok (decimal n, rest) := by
    refine except_bind_eq_ok.2 ⟨_, hdigits, if_neg fun h => ?_⟩
    exact h.2 (length_of_decimal_head h.1)
  have hfraction : fractionDigits rest = .ok (none, rest) := by
    unfold fractionDigits
    split
    · exact absurd rfl (hends _ rfl).2.1
    · rfl
  have hexponent : exponentDigits rest = .ok (none, rest) := by
    cases rest with
    | nil => rfl
    | cons b rest => exact if_neg (by simp [(hends b rfl).2.2.1, (hends b rfl).2.2.2])
  exact except_bind_eq_ok.2 ⟨_, hwhole, except_bind_eq_ok.2 ⟨_, hfraction,
    except_bind_eq_ok.2 ⟨_, hexponent, rfl⟩⟩⟩

/-- Digits whose value fits 64 bits are all taken. -/
theorem growSignificand_digits {chars : List Char} (hchars : ∀ c ∈ chars, c.toNat < 0x80)
    (start : Nat) (hfits : Nat.ofDigitChars 10 chars start < 18446744073709551616) :
    growSignificand start (chars.map fun c => .ofNat c.toNat) =
      (Nat.ofDigitChars 10 chars start, 0) := by
  induction chars generalizing start with
  | nil => simp [growSignificand]
  | cons c chars ih =>
      rw [List.forall_mem_cons] at hchars
      have hoctet : (UInt8.ofNat c.toNat).toNat = c.toNat := by
        rw [UInt8.toNat_ofNat']
        omega
      rw [Nat.ofDigitChars_cons] at hfits ⊢
      have hgrows := Text.le_ofDigitChars chars (10 * start + (c.toNat - 0x30))
      rw [List.map_cons, growSignificand, hoctet]
      exact (if_pos (Nat.lt_of_le_of_lt hgrows hfits)).trans (ih hchars.2 _ hfits)

/-- Of digits whose value does not fit 64 bits some are left. -/
theorem growSignificand_excess {chars : List Char} (hchars : ∀ c ∈ chars, c.toNat < 0x80)
    {start : Nat} (hstart : start < 18446744073709551616)
    (hlarge : 18446744073709551616 ≤ Nat.ofDigitChars 10 chars start) :
    (growSignificand start (chars.map fun c => .ofNat c.toNat)).2 ≠ 0 := by
  induction chars generalizing start with
  | nil =>
      rw [Nat.ofDigitChars_nil] at hlarge
      omega
  | cons c chars ih =>
      rw [List.forall_mem_cons] at hchars
      have hoctet : (UInt8.ofNat c.toNat).toNat = c.toNat := by
        rw [UInt8.toNat_ofNat']
        omega
      rw [Nat.ofDigitChars_cons] at hlarge
      rw [List.map_cons, growSignificand, hoctet]
      split
      case isTrue hfits => exact ih hchars.2 hfits hlarge
      case isFalse => exact Nat.succ_ne_zero _

theorem number_digits (negative : Bool) (n : Nat) (hends : NumberEnds rest) :
    number negative (decimal n ++ rest) =
      (NumberParts.value negative ⟨decimal n, none, none⟩).map (·, rest) := by
  rw [number, numberParts_decimal n hends]

theorem value_decimal (negative : Bool) {n : Nat} (hfits : n < 18446744073709551616) :
    NumberParts.value negative ⟨decimal n, none, none⟩ = .ok (integerOf negative n) := by
  have hgrow : growSignificand 0 (decimal n) = (n, 0) := by
    have hdigits := growSignificand_digits (toDigits_ascii n) 0
    rw [Nat.ofDigitChars_ten_toDigits] at hdigits
    exact hdigits hfits
  simp [NumberParts.value, hgrow]

/-- A number that 64 bits do not hold is no integer any more. -/
theorem value_decimal_ne_int (negative : Bool) {n : Nat} (hlarge : 18446744073709551616 ≤ n)
    (i : Int) : NumberParts.value negative ⟨decimal n, none, none⟩ ≠ .ok (.int i) := by
  have hexcess : (growSignificand 0 (decimal n)).2 ≠ 0 := by
    refine growSignificand_excess (toDigits_ascii n) (by decide) ?_
    rwa [Nat.ofDigitChars_ten_toDigits]
  have hfloat : ∀ significand exponent, floatOf negative significand exponent ≠ .ok (.int i) := by
    intro significand exponent
    unfold floatOf
    split
    · dsimp only
      split <;> nofun
    · nofun
  unfold NumberParts.value
  simp only [Option.isNone_none, true_and, hexcess, if_false]
  exact hfloat _ _

end BearerClient.Json
