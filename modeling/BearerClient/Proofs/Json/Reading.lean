import BearerClient.Json.Reader

/-!
# Readers, step by step

A reader that is written step by step succeeds if each of its steps does on what the one before
has left.  Almost all readers look at the next octet first, with white space dropped, so white
space in front of a value makes no difference.

Here are also the leaves.  Each takes an octet at least, and what is read strictly can be passed
over, up to the same place.
-/

namespace BearerClient.Json

open Scan

variable {α β : Type} {input mid rest : Bytes}

/-! ## Steps -/

theorem except_bind_eq_ok {ε : Type} {first : Except ε α} {next : α → Except ε β} {b : β} :
    (first >>= next) = .ok b ↔ ∃ a, first = .ok a ∧ next a = .ok b := by
  cases first with
  | error fault => simp [bind, Except.bind]
  | ok a => simp [bind, Except.bind]

theorem bind_of_ok {reader : Reader α} {f : α → Reader β} {a : α}
    (hreader : reader input = .ok (a, mid)) : (reader >>= f) input = f a mid := by
  change (reader input).bind _ = _
  rw [hreader]
  rfl

theorem bind_of_error {reader : Reader α} {f : α → Reader β} {fault : Fault}
    (hreader : reader input = .error fault) : (reader >>= f) input = .error fault := by
  change (reader input).bind _ = _
  rw [hreader]
  rfl

theorem bind_eq_ok {reader : Reader α} {f : α → Reader β} {b : β} :
    (reader >>= f) input = .ok (b, rest) ↔
      ∃ a mid, reader input = .ok (a, mid) ∧ f a mid = .ok (b, rest) := by
  cases hreader : reader input with
  | error fault => simp [bind_of_error hreader]
  | ok result =>
      obtain ⟨a, mid⟩ := result
      rw [bind_of_ok hreader]
      constructor
      · exact fun hnext => ⟨a, mid, rfl, hnext⟩
      · rintro ⟨a', mid', hsame, hnext⟩
        cases hsame
        exact hnext

/-- The input without the white space before its next token. -/
def trimmed (input : Bytes) : Bytes := input.dropWhile isSpace

theorem peek_bind (f : Option UInt8 → Reader β) (input : Bytes) :
    (peek >>= f) input = f (trimmed input).head? (trimmed input) := rfl

@[simp] theorem trimmed_trimmed (input : Bytes) : trimmed (trimmed input) = trimmed input := by
  induction input with
  | nil => rfl
  | cons b input ih =>
      by_cases hspace : isSpace b = true <;> simp [trimmed, hspace] at ih ⊢
      exact ih

theorem length_trimmed_le (input : Bytes) : (trimmed input).length ≤ input.length :=
  (List.dropWhile_suffix _).length_le

/-- After a look at the next octet the reader goes on by what it is. -/
theorem peek_bind_eq_ok {f : Option UInt8 → Reader β} {result : β × Bytes}
    (hread : (peek >>= f) input = .ok result) :
    ∃ head, (trimmed input).head? = head ∧ f head (trimmed input) = .ok result :=
  ⟨_, rfl, hread⟩

/-- Who looks at the next octet first does not see the white space before it. -/
theorem peek_bind_trimmed (f : Option UInt8 → Reader β) (input : Bytes) :
    (peek >>= f) (trimmed input) = (peek >>= f) input := by
  rw [peek_bind, peek_bind, trimmed_trimmed]

theorem drop_bind (f : Unit → Reader β) (b : UInt8) (input : Bytes) :
    (drop >>= f) (b :: input) = f () input := rfl

theorem atEnd_eq_ok_iff {result : Unit} :
    atEnd input = .ok (result, rest) ↔ trimmed input = [] ∧ rest = [] := by
  unfold atEnd
  rw [peek_bind]
  cases trimmed input with
  | nil =>
      constructor
      · rintro ⟨⟩
        exact ⟨rfl, rfl⟩
      · rintro ⟨-, rfl⟩
        rfl
  | cons b tail => exact ⟨nofun, nofun⟩

/-- A whole input is read by who leaves nothing but white space of it. -/
theorem readAll_eq_ok_iff {reader : Reader α} {a : α} :
    readAll reader input = .ok a ↔ ∃ rest, reader input = .ok (a, rest) ∧ trimmed rest = [] := by
  constructor
  · intro hread
    cases hboth : (do let value ← reader; atEnd; return value : Reader α) input with
    | error fault =>
        rw [readAll, StateT.run, hboth] at hread
        cases hread
    | ok result =>
        rw [readAll, StateT.run, hboth] at hread
        obtain ⟨held, last⟩ := result
        cases hread
        obtain ⟨value, rest, hvalue, hnext⟩ := bind_eq_ok.1 hboth
        obtain ⟨done, after, hend, hdone⟩ := bind_eq_ok.1 hnext
        cases hdone
        exact ⟨rest, hvalue, (atEnd_eq_ok_iff.1 hend).1⟩
  · rintro ⟨rest, hvalue, hrest⟩
    have hend : atEnd rest = .ok ((), []) := atEnd_eq_ok_iff.2 ⟨hrest, rfl⟩
    rw [readAll, StateT.run, bind_of_ok hvalue, bind_of_ok hend]
    rfl

/-! ## Names -/

theorem length_expectOctets_le {expected : Bytes} {result : Unit}
    (hread : expectOctets expected input = .ok (result, rest)) :
    rest.length ≤ input.length := by
  induction expected generalizing input with
  | nil =>
      cases hread
      exact Nat.le_refl _
  | cons e expected ih =>
      cases input with
      | nil => cases hread
      | cons b input =>
          rw [expectOctets] at hread
          split at hread
          · exact Nat.le_succ_of_le (ih hread)
          · cases hread

/-! ## Strings -/

/-- An escape that is already taken is not looked at again. -/
theorem stringFrom_skip (escape : EscapeRule) (skip : Nat) (input : Bytes) :
    stringFrom escape skip input = stringFrom escape 0 (input.drop skip) := by
  induction skip generalizing input with
  | zero => rfl
  | succ skip ih =>
      cases input with
      | nil => simp [stringFrom]
      | cons b input => exact ih input

/-- A string ends, or goes on with an escape or with any other octet but a control. -/
inductive Spells (escape : EscapeRule) : Bytes → Bytes → Bytes → Prop where
  | quote (rest : Bytes) : Spells escape (0x22 :: rest) [] rest
  | escape {tail octets content rest : Bytes} {used : Nat}
      (hescape : escape tail = .ok (octets, used))
      (htail : stringFrom escape 0 (tail.drop used) = .ok (content, rest)) :
      Spells escape (0x5C :: tail) (octets ++ content) rest
  | plain {b : UInt8} {tail content rest : Bytes} (hquote : b ≠ 0x22) (hslash : b ≠ 0x5C)
      (hcontrol : ¬b < 0x20) (htail : stringFrom escape 0 tail = .ok (content, rest)) :
      Spells escape (b :: tail) (b :: content) rest

theorem stringFrom_eq_ok_iff {escape : EscapeRule} {content : Bytes} :
    stringFrom escape 0 input = .ok (content, rest) ↔ Spells escape input content rest := by
  constructor
  · intro hread
    cases input with
    | nil => cases hread
    | cons b tail =>
        rw [stringFrom] at hread
        split at hread
        case isTrue hquote =>
          cases hread
          rw [hquote]
          exact .quote rest
        case isFalse hquote =>
          split at hread
          case isTrue hslash =>
            obtain ⟨⟨octets, used⟩, hescape, htail⟩ := except_bind_eq_ok.1 hread
            obtain ⟨⟨content, after⟩, htail, hdone⟩ := except_bind_eq_ok.1 htail
            cases hdone
            rw [stringFrom_skip] at htail
            rw [hslash]
            exact .escape hescape htail
          case isFalse hslash =>
            split at hread
            case isTrue hcontrol => cases hread
            case isFalse hcontrol =>
              obtain ⟨⟨content, after⟩, htail, hdone⟩ := except_bind_eq_ok.1 hread
              cases hdone
              exact .plain hquote hslash hcontrol htail
  · intro hspells
    cases hspells with
    | quote rest => simp [stringFrom]
    | escape hescape htail =>
        rw [← stringFrom_skip] at htail
        rw [stringFrom, if_neg (by decide), if_pos rfl, hescape]
        simp only [bind, Except.bind, htail]
    | plain hquote hslash hcontrol htail =>
        rw [stringFrom, if_neg hquote, if_neg hslash, if_neg hcontrol, htail]
        rfl

theorem length_stringFrom_lt {escape : EscapeRule} {content : Bytes}
    (hread : stringFrom escape 0 input = .ok (content, rest)) :
    rest.length < input.length := by
  induction hlength : input.length using Nat.strongRecOn generalizing input content with
  | _ length ih =>
      subst hlength
      cases stringFrom_eq_ok_iff.1 hread with
      | quote rest => exact Nat.lt_succ_self _
      | @escape tail octets content rest used hescape htail =>
          have hdropped : (tail.drop used).length ≤ tail.length := by
            rw [List.length_drop]
            exact Nat.sub_le ..
          have hshorter := ih _ (Nat.lt_succ_of_le hdropped) htail rfl
          exact Nat.lt_succ_of_lt (Nat.lt_of_lt_of_le hshorter hdropped)
      | plain hquote hslash hcontrol htail =>
          exact Nat.lt_succ_of_lt (ih _ (Nat.lt_succ_self _) htail rfl)

theorem lowSurrogate_eq_ok {high : Nat} {result : Bytes × Nat}
    (hread : lowSurrogate high input = .ok result) :
    ∃ digits low, input = 0x5C :: 0x75 :: digits ∧ hex4 digits = .ok low ∧ result.2 = 11 := by
  unfold lowSurrogate at hread
  split at hread
  · cases hread
  · split at hread
    · cases hread
    · rename_i a rest hslash
      split at hread
      · cases hread
      · rename_i u digits
        split at hread
        · cases hread
        · rename_i hletter
          obtain ⟨low, hlow, hdone⟩ := except_bind_eq_ok.1 hread
          split at hdone
          · cases hdone
          · rw [Decidable.not_not] at hslash hletter
            refine ⟨digits, low, by rw [hslash, hletter], hlow, ?_⟩
            rw [← Except.ok.inj hdone]

theorem looseEscape_u {digits : Bytes} {unit : Nat} (hdigits : hex4 digits = .ok unit) :
    looseEscape (0x75 :: digits) = .ok ([], 5) := by
  simp [looseEscape, hdigits, Except.map]

/-- An escape that denotes a character is passed over as one escape, or as two where it is a
pair of surrogates. -/
theorem looseEscape_of_strictEscape {octets : Bytes} {used : Nat}
    (hread : strictEscape input = .ok (octets, used)) :
    looseEscape input = .ok ([], used) ∨
      looseEscape input = .ok ([], 5) ∧ ∃ low, input.drop 5 = 0x5C :: low ∧
        looseEscape low = .ok ([], 5) ∧ low.drop 5 = input.drop used := by
  unfold strictEscape at hread
  split at hread
  · cases hread
  rename_i b tail
  split at hread
  case isTrue hletter =>
    subst hletter
    obtain ⟨unit, hunit, hrest⟩ := except_bind_eq_ok.1 hread
    split at hrest
    · cases hrest
    split at hrest
    · cases hrest
      exact .inl (looseEscape_u hunit)
    · obtain ⟨digits, low, htail, hlow, hused⟩ := lowSurrogate_eq_ok hrest
      have hafter : tail.drop 10 = digits.drop 4 := by
        rw [show 10 = 4 + 6 from rfl, ← List.drop_drop, htail]
        rfl
      rw [show used = 11 from hused]
      exact .inr ⟨looseEscape_u hunit, 0x75 :: digits, htail, looseEscape_u hlow, hafter.symm⟩
  case isFalse hletter =>
    split at hread
    · rename_i octet hshort
      cases hread
      refine .inl ?_
      simp only [looseEscape, if_neg hletter, hshort]
    · cases hread

/-- A string that can be read can be passed over. -/
theorem stringFrom_loose {content : Bytes}
    (hread : stringFrom strictEscape 0 input = .ok (content, rest)) :
    ∃ passed, stringFrom looseEscape 0 input = .ok (passed, rest) := by
  induction hlength : input.length using Nat.strongRecOn generalizing input content with
  | _ length ih =>
      subst hlength
      cases stringFrom_eq_ok_iff.1 hread with
      | quote rest => exact ⟨[], stringFrom_eq_ok_iff.2 (.quote rest)⟩
      | @escape tail octets content rest used hescape htail =>
          have hshorter : (tail.drop used).length < (0x5C :: tail).length := by
            rw [List.length_drop, List.length_cons]
            omega
          obtain ⟨passed, hpassed⟩ := ih _ hshorter htail rfl
          rcases looseEscape_of_strictEscape hescape with hloose | ⟨hhigh, low, hlow, hloose, hsame⟩
          · exact ⟨_, stringFrom_eq_ok_iff.2 (.escape hloose hpassed)⟩
          · rw [← hsame] at hpassed
            have hlater : stringFrom looseEscape 0 (tail.drop 5) = .ok ([] ++ passed, rest) := by
              rw [hlow]
              exact stringFrom_eq_ok_iff.2 (.escape hloose hpassed)
            exact ⟨_, stringFrom_eq_ok_iff.2 (.escape hhigh hlater)⟩
      | plain hquote hslash hcontrol htail =>
          obtain ⟨passed, hpassed⟩ := ih _ (Nat.lt_succ_self _) htail rfl
          exact ⟨_, stringFrom_eq_ok_iff.2 (.plain hquote hslash hcontrol hpassed)⟩

theorem stringBody_eq_ok {text : String} (hread : stringBody input = .ok (text, rest)) :
    ∃ octets, stringFrom strictEscape 0 input = .ok (octets, rest) ∧
      Text.Utf8.decode octets = .ok text := by
  obtain ⟨⟨octets, after⟩, hoctets, hdone⟩ := except_bind_eq_ok.1 hread
  dsimp only at hdone
  split at hdone
  · rename_i held hdecoded
    cases hdone
    exact ⟨octets, hoctets, hdecoded⟩
  · cases hdone

theorem length_stringBody_lt {text : String} (hread : stringBody input = .ok (text, rest)) :
    rest.length < input.length := by
  obtain ⟨octets, hoctets, -⟩ := stringBody_eq_ok hread
  exact length_stringFrom_lt hoctets

theorem skipStringBody_of_stringBody {text : String}
    (hread : stringBody input = .ok (text, rest)) : skipStringBody input = .ok ((), rest) := by
  obtain ⟨octets, hoctets, -⟩ := stringBody_eq_ok hread
  obtain ⟨passed, hpassed⟩ := stringFrom_loose hoctets
  exact except_bind_eq_ok.2 ⟨_, hpassed, rfl⟩

theorem length_skipStringBody_lt {result : Unit}
    (hskip : skipStringBody input = .ok (result, rest)) : rest.length < input.length := by
  obtain ⟨⟨octets, after⟩, hoctets, hdone⟩ := except_bind_eq_ok.1 hskip
  cases hdone
  exact length_stringFrom_lt hoctets

/-! ## Numbers -/

theorem length_digits_lt {ds : Bytes} (hread : digits input = .ok (ds, rest)) :
    rest.length < input.length := by
  unfold digits at hread
  split at hread
  · cases hread
  · rename_i ds hds
    cases hread
    have hparts : (input.takeWhile isDigit).length + (input.dropWhile isDigit).length =
        input.length := by
      rw [← List.length_append, List.takeWhile_append_dropWhile]
    have hpos : 0 < (input.takeWhile isDigit).length := List.length_pos_iff.2 hds
    omega

theorem length_fractionDigits_le {fraction : Option Bytes}
    (hread : fractionDigits input = .ok (fraction, rest)) : rest.length ≤ input.length := by
  unfold fractionDigits at hread
  split at hread
  · obtain ⟨⟨ds, after⟩, hdigits, hdone⟩ := except_bind_eq_ok.1 hread
    cases hdone
    exact Nat.le_succ_of_le (Nat.le_of_lt (length_digits_lt hdigits))
  · cases hread
    exact Nat.le_refl _

theorem length_exponentSign_le (input : Bytes) :
    (exponentSign input).2.length ≤ input.length := by
  unfold exponentSign
  split
  · exact Nat.le_succ _
  · exact Nat.le_succ _
  · exact Nat.le_refl _

theorem length_exponentDigits_le {exponent : Option (Bool × Bytes)}
    (hread : exponentDigits input = .ok (exponent, rest)) : rest.length ≤ input.length := by
  unfold exponentDigits at hread
  split at hread
  · rename_i b tail
    split at hread
    · obtain ⟨⟨ds, after⟩, hdigits, hdone⟩ := except_bind_eq_ok.1 hread
      cases hdone
      have hsign := length_exponentSign_le tail
      have hlt : rest.length < (exponentSign tail).2.length := length_digits_lt hdigits
      rw [List.length_cons]
      omega
    · cases hread
      exact Nat.le_refl _
  · cases hread
    exact Nat.le_refl _

theorem length_numberParts_lt {parts : NumberParts}
    (hread : numberParts input = .ok (parts, rest)) : rest.length < input.length := by
  obtain ⟨⟨whole, afterWhole⟩, hwhole, hread⟩ := except_bind_eq_ok.1 hread
  obtain ⟨⟨fraction, afterFraction⟩, hfraction, hread⟩ := except_bind_eq_ok.1 hread
  obtain ⟨⟨exponent, afterExponent⟩, hexponent, hdone⟩ := except_bind_eq_ok.1 hread
  cases hdone
  obtain ⟨⟨ds, after⟩, hdigits, hdone⟩ := except_bind_eq_ok.1 hwhole
  dsimp only at hdone
  split at hdone
  · cases hdone
  cases hdone
  have hlt := length_digits_lt hdigits
  have hle := length_fractionDigits_le hfraction
  have hle' := length_exponentDigits_le hexponent
  omega

theorem number_eq_ok {negative : Bool} {value : Number}
    (hread : number negative input = .ok (value, rest)) :
    ∃ parts, numberParts input = .ok (parts, rest) := by
  unfold number at hread
  split at hread
  · cases hread
  · cases hread
  · rename_i parts after hparts
    cases hvalue : parts.value negative with
    | error fault =>
        rw [hvalue] at hread
        cases hread
    | ok held =>
        rw [hvalue] at hread
        cases hread
        exact ⟨parts, hparts⟩

theorem length_number_lt {negative : Bool} {value : Number}
    (hread : number negative input = .ok (value, rest)) : rest.length < input.length := by
  obtain ⟨parts, hparts⟩ := number_eq_ok hread
  exact length_numberParts_lt hparts

theorem skipNumber_of_number {negative : Bool} {value : Number}
    (hread : number negative input = .ok (value, rest)) :
    skipNumber input = .ok ((), rest) := by
  obtain ⟨parts, hparts⟩ := number_eq_ok hread
  simp only [skipNumber, hparts]

theorem length_skipNumber_lt {result : Unit} (hskip : skipNumber input = .ok (result, rest)) :
    rest.length < input.length := by
  unfold skipNumber at hskip
  split at hskip
  · cases hskip
  · rename_i parts after hparts
    cases hskip
    exact length_numberParts_lt hparts

/-! ## Scalars -/

/-- What is read strictly takes an octet at least, and can be passed over. -/
structure Passes (read : Reader α) (skip : Reader Unit) (input : Bytes) : Prop where
  length_lt : ∀ a rest, read input = .ok (a, rest) → rest.length < input.length
  skips : ∀ a rest, read input = .ok (a, rest) → skip input = .ok ((), rest)

theorem Passes.of_ok {read : Reader α} {skip : Reader Unit} {input : Bytes}
    (hread : ∀ a rest, read input = .ok (a, rest) →
      rest.length < input.length ∧ skip input = .ok ((), rest)) :
    Passes read skip input :=
  ⟨fun a rest h => (hread a rest h).1, fun a rest h => (hread a rest h).2⟩

/-- What goes on with a value, but not in the text, passes where the value does. -/
theorem Passes.bind {reader : Reader α} {skip : Reader Unit} {f : α → Reader β} {input : Bytes}
    (hreader : Passes reader skip input)
    (hstays : ∀ a mid b rest, f a mid = .ok (b, rest) → rest = mid) :
    Passes (reader >>= f) skip input := by
  refine .of_ok fun b rest hread => ?_
  obtain ⟨a, mid, hread, hnext⟩ := bind_eq_ok.1 hread
  rw [hstays a mid b rest hnext]
  exact ⟨hreader.length_lt _ _ hread, hreader.skips _ _ hread⟩

theorem Passes.map {reader : Reader α} {skip : Reader Unit} {input : Bytes}
    (hreader : Passes reader skip input) (f : α → β) :
    Passes (do return f (← reader)) skip input := by
  refine hreader.bind fun a mid b rest hdone => ?_
  cases hdone
  rfl

theorem length_finishName_le {b : UInt8} {result : Unit}
    (hread : finishName b input = .ok (result, rest)) : rest.length ≤ input.length := by
  unfold finishName at hread
  split at hread
  · exact length_expectOctets_le hread
  · split at hread <;> exact length_expectOctets_le hread

/-- A value that holds no others, and how it is read.  The octet in front tells which it is. -/
inductive ScalarSpelled (b : UInt8) (tail rest : Bytes) : Value → Prop where
  | null (hb : b = 0x6E) (hname : finishName b tail = .ok ((), rest)) :
      ScalarSpelled b tail rest .null
  | bool {value : Bool} (hb : b = if value then 0x74 else 0x66)
      (hname : finishName b tail = .ok ((), rest)) : ScalarSpelled b tail rest (.bool value)
  | negative {n : Number} (hb : b = 0x2D) (hnumber : number true tail = .ok (n, rest)) :
      ScalarSpelled b tail rest (.number n)
  | natural {n : Number} (hb : isDigit b = true)
      (hnumber : number false (b :: tail) = .ok (n, rest)) : ScalarSpelled b tail rest (.number n)
  | string {text : String} (hb : b = 0x22) (htext : stringBody tail = .ok (text, rest)) :
      ScalarSpelled b tail rest (.string text)

theorem finishName_eq_ok {b : UInt8} {tail : Bytes} {value result : Value}
    (hread : (do drop; finishName b; return value : Reader Value) (b :: tail) =
      .ok (result, rest)) : finishName b tail = .ok ((), rest) ∧ value = result := by
  rw [drop_bind] at hread
  obtain ⟨done, after, hname, hdone⟩ := bind_eq_ok.1 hread
  cases hdone
  exact ⟨hname, rfl⟩

theorem readScalar_eq_ok {b : UInt8} {tail : Bytes} {value : Value}
    (hread : readScalar b (b :: tail) = .ok (value, rest)) : ScalarSpelled b tail rest value := by
  unfold readScalar at hread
  split at hread
  case isTrue hb =>
    obtain ⟨hname, rfl⟩ := finishName_eq_ok hread
    exact .null hb hname
  split at hread
  case isTrue hb =>
    obtain ⟨hname, rfl⟩ := finishName_eq_ok hread
    exact .bool hb hname
  split at hread
  case isTrue hb =>
    obtain ⟨hname, rfl⟩ := finishName_eq_ok hread
    exact .bool hb hname
  split at hread
  case isTrue hb =>
    rw [drop_bind] at hread
    obtain ⟨n, after, hnumber, hdone⟩ := bind_eq_ok.1 hread
    cases hdone
    exact .negative hb hnumber
  split at hread
  case isTrue hb =>
    obtain ⟨n, after, hnumber, hdone⟩ := bind_eq_ok.1 hread
    cases hdone
    exact .natural hb hnumber
  split at hread
  case isTrue hb =>
    rw [drop_bind] at hread
    obtain ⟨text, after, htext, hdone⟩ := bind_eq_ok.1 hread
    cases hdone
    exact .string hb htext
  case isFalse => cases hread

theorem ne_of_isDigit {b c : UInt8} (hb : isDigit b = true) (hc : isDigit c = false) : b ≠ c := by
  rintro rfl
  rw [hb] at hc
  cases hc

theorem readScalar_passes (b : UInt8) (tail : Bytes) :
    Passes (readScalar b) (skipScalar b) (b :: tail) := by
  refine .of_ok fun value rest hread => ?_
  have hname : b = 0x6E ∨ b = 0x74 ∨ b = 0x66 → finishName b tail = .ok ((), rest) →
      rest.length < (b :: tail).length ∧ skipScalar b (b :: tail) = .ok ((), rest) := by
    intro hb hname
    rw [skipScalar, if_pos hb, drop_bind]
    exact ⟨Nat.lt_succ_of_le (length_finishName_le hname), hname⟩
  cases readScalar_eq_ok hread with
  | null hb hspelled => exact hname (.inl hb) hspelled
  | @bool value hb hspelled =>
      cases value with
      | true => exact hname (.inr (.inl hb)) hspelled
      | false => exact hname (.inr (.inr hb)) hspelled
  | negative hb hnumber =>
      subst hb
      refine ⟨Nat.lt_succ_of_lt (length_number_lt hnumber), ?_⟩
      rw [skipScalar, if_neg (by decide), if_pos rfl, drop_bind]
      exact skipNumber_of_number hnumber
  | natural hb hnumber =>
      have hname : ¬ (b = 0x6E ∨ b = 0x74 ∨ b = 0x66) := by
        rintro (rfl | rfl | rfl) <;> cases hb
      refine ⟨length_number_lt hnumber, ?_⟩
      rw [skipScalar, if_neg hname, if_neg (ne_of_isDigit hb (by decide)), if_pos hb]
      exact skipNumber_of_number hnumber
  | string hb htext =>
      subst hb
      refine ⟨Nat.lt_succ_of_lt (length_stringBody_lt htext), ?_⟩
      rw [skipScalar, if_neg (by decide), if_neg (by decide), if_neg (by decide), if_pos rfl,
        drop_bind]
      exact skipStringBody_of_stringBody htext

theorem length_skipScalar_lt {b : UInt8} {tail : Bytes} {result : Unit}
    (hskip : skipScalar b (b :: tail) = .ok (result, rest)) :
    rest.length < (b :: tail).length := by
  unfold skipScalar at hskip
  split at hskip
  · exact Nat.lt_succ_of_le (length_finishName_le hskip)
  split at hskip
  · exact Nat.lt_succ_of_lt (length_skipNumber_lt hskip)
  split at hskip
  · exact length_skipNumber_lt hskip
  split at hskip
  · exact Nat.lt_succ_of_lt (length_skipStringBody_lt hskip)
  · cases hskip

end BearerClient.Json
