import BearerClient.Proofs.Text.Integer
import BearerClient.Toml.Document

/-!
# Keys and values of TOML

How a key, a text, a number or a truth value may be written in one line, said without a reader.
The reader takes each of them up to its end, whatever follows, as long as that cannot be more of
it.
-/

namespace BearerClient.Toml

variable {c : Char} {content spelled digits text rest : List Char}

/-! ## Texts -/

/-- The number that hexadecimal digits stand for, after what others before them stand for. -/
def hexValue? (start : Nat) (digits : List Char) : Option Nat :=
  digits.foldlM (fun n c => (hexDigit? c).map (16 * n + ·)) start

/-- A character as it may stand between double quotation marks. -/
inductive Spells : Char → List Char → Prop where
  | itself {c : Char} (hplain : isTextChar c = true) (hmark : c ≠ '"') (hslash : c ≠ '\\') :
      Spells c [c]
  | letter {c letter : Char} (hletter : escaped? letter = some c) : Spells c ['\\', letter]
  | code {c letter : Char} {digits : List Char}
      (hlength : codeLength? letter = some digits.length)
      (hvalue : hexValue? 0 digits = some c.toNat) : Spells c ('\\' :: letter :: digits)

/-- A text as it may stand between double quotation marks. -/
inductive Spelling : List Char → List Char → Prop where
  | nil : Spelling [] []
  | cons {c : Char} {piece content spelled : List Char} (hfirst : Spells c piece)
      (hrest : Spelling content spelled) : Spelling (c :: content) (piece ++ spelled)

/-- A text in one line with its marks. -/
inductive Quotes.Writes : String → List Char → Prop where
  | double {content : String} {spelled : List Char} (hspelling : Spelling content.toList spelled) :
      Writes content ('"' :: spelled ++ ['"'])
  | single {content : String}
      (hplain : ∀ c ∈ content.toList, isTextChar c = true ∧ c ≠ '\x27') :
      Writes content ('\x27' :: content.toList ++ ['\x27'])

theorem scalar?_toNat (c : Char) : scalar? c.toNat = some c := by
  have hvalid : c.toNat.isValidChar := c.valid
  rw [scalar?, if_pos hvalid, Char.ofNat_toNat]

/-- By induction on the digits, the last of which completes the code point. -/
theorem readText_code {quotes : Quotes} {value : Nat} (hsome : digits ≠ [])
    (hvalue : hexValue? value digits = some c.toNat) :
    readText quotes (.code digits.length value) (digits ++ rest) =
      (readText quotes .plain rest).map fun (text, after) => (c :: text, after) := by
  induction digits generalizing value with
  | nil => exact absurd rfl hsome
  | cons d digits ih =>
      rw [hexValue?, List.foldlM_cons] at hvalue
      obtain ⟨next, hnext, hvalue⟩ := Option.bind_eq_some_iff.1 hvalue
      obtain ⟨n, hn, rfl⟩ := Option.map_eq_some_iff.1 hnext
      rw [List.cons_append, readText, hn]
      cases digits with
      | nil =>
          have hcode : 16 * value + n = c.toNat := Option.some.inj hvalue
          dsimp only
          rw [List.length_singleton, if_pos rfl, hcode, scalar?_toNat]
          rfl
      | cons e digits =>
          have hmore : (d :: e :: digits).length ≠ 1 := by simp
          dsimp only
          rw [if_neg hmore]
          exact ih (by simp) hvalue

theorem codeLength?_of_escaped? {letter : Char} (hletter : escaped? letter = some c) :
    codeLength? letter = none := by
  unfold escaped? at hletter
  split at hletter <;> first | rfl | cases hletter

theorem close?_eq_none {quotes : Quotes} (hmark : c ≠ quotes.mark) :
    quotes.close? (c :: rest) = none := by
  simp [Quotes.close?, hmark]

/-- One character, however it is spelled. -/
theorem Spells.readText {piece : List Char} (hspells : Spells c piece) :
    readText ⟨'"', false⟩ .plain (piece ++ rest) =
      (readText ⟨'"', false⟩ .plain rest).map fun (text, after) => (c :: text, after) := by
  cases hspells with
  | itself hplain hmark hslash =>
      rw [List.singleton_append, Toml.readText, close?_eq_none hmark]
      simp [hslash, hplain]
  | letter hletter =>
      rw [List.cons_append, Toml.readText, close?_eq_none (by decide)]
      simp only [Quotes.escapes, decide_true, and_self, if_true]
      rw [List.singleton_append, Toml.readText, codeLength?_of_escaped? hletter, hletter]
  | @code letter digits hlength hvalue =>
      have hsome : digits ≠ [] := by
        rintro rfl
        unfold codeLength? at hlength
        split at hlength <;> cases hlength
      rw [List.cons_append, Toml.readText, close?_eq_none (by decide)]
      simp only [Quotes.escapes, decide_true, and_self, if_true]
      rw [List.cons_append, Toml.readText, hlength]
      exact readText_code hsome hvalue

/-- A text between double marks is read up to the closing one. -/
theorem Spelling.readText (hspelling : Spelling content spelled) :
    readText ⟨'"', false⟩ .plain (spelled ++ '"' :: rest) = some (content, rest) := by
  induction hspelling with
  | nil =>
      rw [List.nil_append, Toml.readText]
      simp [Quotes.close?]
  | cons hfirst hrest ih =>
      rw [List.append_assoc, hfirst.readText, ih]
      rfl

theorem readText_single (hplain : ∀ c ∈ content, isTextChar c = true ∧ c ≠ '\x27') :
    readText ⟨'\x27', false⟩ .plain (content ++ '\x27' :: rest) = some (content, rest) := by
  induction content with
  | nil =>
      rw [List.nil_append, readText]
      simp [Quotes.close?]
  | cons c content ih =>
      rw [List.forall_mem_cons] at hplain
      obtain ⟨⟨hc, hmark⟩, hplain⟩ := hplain
      rw [List.cons_append, readText, close?_eq_none hmark]
      simp [Quotes.escapes, hc, ih hplain]

theorem Quotes.Writes.quotedKey? {content : String} (hwrites : Quotes.Writes content text) :
    quotedKey? (text ++ rest) = some (content.toList, rest) := by
  cases hwrites with
  | double hspelling =>
      rw [List.cons_append, List.cons_append, List.append_assoc]
      exact hspelling.readText
  | single hplain =>
      rw [List.cons_append, List.cons_append, List.append_assoc]
      exact readText_single hplain

/-- What marks a text cannot have three of in a row. -/
theorem quoted?_eq_quotedKey? (hdouble : ∀ rest, text ≠ '"' :: '"' :: '"' :: rest)
    (hsingle : ∀ rest, text ≠ '\x27' :: '\x27' :: '\x27' :: rest) :
    quoted? text = quotedKey? text := by
  unfold quoted?
  split
  · exact absurd rfl (hdouble _)
  · exact absurd rfl (hsingle _)
  · rfl
  · rfl
  · unfold quotedKey?
    split
    all_goals simp_all

/-! ## Ends -/

/-- Only blanks. -/
def IsBlank (text : List Char) : Prop := ∀ c ∈ text, isBlank c = true

theorem eq_of_isBlank (hblank : isBlank c = true) : c = ' ' ∨ c = '\t' := by
  simpa [isBlank] using hblank

theorem isBlank_eq_false (hspace : c ≠ ' ') (htab : c ≠ '\t') : isBlank c = false := by
  simp [isBlank, hspace, htab]

/-- A value cannot go on where a line ends. -/
theorem head_of_endsLine (hends : endsLine rest = true) (hc : rest.head? = some c) :
    c = ' ' ∨ c = '\t' ∨ c = '#' ∨ c = '\n' ∨ c = '\x0d' := by
  obtain ⟨rest, rfl⟩ := List.head?_eq_some_iff.1 hc
  by_cases hblank : isBlank c = true
  · rcases eq_of_isBlank hblank with rfl | rfl <;> simp
  · rw [endsLine, dropBlanks, List.dropWhile_cons_of_neg hblank] at hends
    split at hends
    case h_1 hnil => cases hnil
    case h_2 hcomment =>
      cases hcomment
      simp
    case h_3 =>
      unfold isLineBreak at hends
      split at hends
      case h_1 hbreak =>
        cases hbreak
        simp
      case h_2 hbreak =>
        cases hbreak
        simp
      case h_3 => cases hends

theorem Spelling.head_ne (hspelling : Spelling content spelled) : spelled.head? ≠ some '"' := by
  cases hspelling with
  | nil => exact nofun
  | cons hfirst hrest =>
      cases hfirst with
      | itself hplain hmark hslash => simpa using hmark
      | letter hletter => simp
      | code hlength hvalue => simp

theorem Quotes.Writes.quoted? {content : String} (hwrites : Quotes.Writes content text)
    (hends : endsLine rest = true) :
    quoted? (text ++ rest) = some (content.toList, rest) := by
  rw [← hwrites.quotedKey?]
  have hnext {c : Char} (hc : rest.head? = some c) : c ≠ '"' ∧ c ≠ '\x27' := by
    rcases head_of_endsLine hends hc with rfl | rfl | rfl | rfl | rfl <;> decide
  cases hwrites with
  | @double spelled hspelling =>
      refine quoted?_eq_quotedKey? (fun after hsame => ?_) (fun after hsame => by simp at hsame)
      cases spelled with
      | nil =>
          simp only [List.cons_append, List.nil_append, List.cons.injEq, true_and] at hsame
          exact (hnext (by rw [hsame]; rfl)).1 rfl
      | cons d spelled =>
          simp only [List.cons_append, List.cons.injEq, true_and] at hsame
          exact hspelling.head_ne (by rw [hsame.1]; rfl)
  | single hplain =>
      refine quoted?_eq_quotedKey? (fun after hsame => by simp at hsame) (fun after hsame => ?_)
      cases hchars : content.toList with
      | nil =>
          simp only [hchars, List.cons_append, List.nil_append, List.cons.injEq, true_and] at hsame
          exact (hnext (by rw [hsame]; rfl)).2 rfl
      | cons d chars =>
          simp only [hchars, List.cons_append, List.cons.injEq, true_and] at hsame
          rw [hchars] at hplain
          exact (hplain d List.mem_cons_self).2 hsame.1

/-! ## Keys -/

/-- A key of one part, bare or between marks. -/
inductive WritesKey : String → List Char → Prop where
  | bare {key : String} (hsome : key.toList ≠ [])
      (hbare : ∀ c ∈ key.toList, isBareChar c = true) : WritesKey key key.toList
  | quoted {key : String} {text : List Char} (hwrites : Quotes.Writes key text) :
      WritesKey key text

theorem quotedKey?_eq_none (hdouble : c ≠ '"') (hsingle : c ≠ '\x27') :
    quotedKey? (c :: rest) = none := by
  simp [quotedKey?, hdouble, hsingle]

theorem WritesKey.keyPart? {key : String} (hwrites : WritesKey key text)
    (hrest : ∀ c ∈ rest.head?, isBareChar c = false) :
    keyPart? (text ++ rest) = some (key, rest) := by
  cases hwrites with
  | bare hsome hbare =>
      have hmarks : quotedKey? (key.toList ++ rest) = none := by
        obtain ⟨c, chars, hchars⟩ := List.exists_cons_of_ne_nil hsome
        have hc : isBareChar c = true := hbare c (hchars ▸ List.mem_cons_self)
        rw [hchars]
        refine quotedKey?_eq_none ?_ ?_ <;> rintro rfl <;> exact absurd hc (by decide)
      rw [Toml.keyPart?, hmarks, Text.takeWhile_before hbare hrest,
        Text.dropWhile_before hbare hrest]
      simp [hsome]
  | quoted hwrites => simp [Toml.keyPart?, hwrites.quotedKey?]

theorem dropBlanks_blank {blanks : List Char} (hblanks : IsBlank blanks) :
    dropBlanks (blanks ++ rest) = dropBlanks rest :=
  List.dropWhile_append_of_pos hblanks

theorem dropBlanks_of_head (hrest : ∀ c ∈ rest.head?, isBlank c = false) :
    dropBlanks rest = rest :=
  have hnone : ∀ c ∈ ([] : List Char), isBlank c = true := by simp
  Text.dropWhile_before hnone hrest

theorem WritesKey.head {key : String} (hwrites : WritesKey key text) :
    ∃ d chars, text = d :: chars ∧ (isBareChar d = true ∨ d = '"' ∨ d = '\x27') := by
  cases hwrites with
  | bare hsome hbare =>
      obtain ⟨d, chars, hchars⟩ := List.exists_cons_of_ne_nil hsome
      exact ⟨d, chars, hchars, .inl (hbare d (hchars ▸ List.mem_cons_self))⟩
  | quoted hwrites =>
      cases hwrites with
      | double hspelling => exact ⟨_, _, rfl, .inr (.inl rfl)⟩
      | single hplain => exact ⟨_, _, rfl, .inr (.inr rfl)⟩

/-- What a key starts with is neither a blank nor anything else with a meaning of its own. -/
theorem WritesKey.head_ne {key : String} (hwrites : WritesKey key text) :
    ∃ d chars, text = d :: chars ∧ isBlank d = false ∧ d ∉ ['#', '\n', '\x0d', '[', '\ufeff'] := by
  obtain ⟨d, chars, hchars, hd⟩ := hwrites.head
  refine ⟨d, chars, hchars, ?_, ?_⟩
  · refine isBlank_eq_false ?_ ?_ <;> rintro rfl <;> exact absurd hd (by decide)
  · intro hspecial
    simp only [List.mem_cons, List.not_mem_nil, or_false] at hspecial
    rcases hspecial with rfl | rfl | rfl | rfl | rfl <;> exact absurd hd (by decide)

/-- A key with blanks around it, up to a character that is no part of keys. -/
theorem WritesKey.key? {key : String} (hwrites : WritesKey key text) {before after : List Char}
    (hbefore : IsBlank before) (hafter : IsBlank after) (hbare : isBareChar c = false)
    (hblank : isBlank c = false) (hpoint : c ≠ '.') :
    key? (before ++ (text ++ (after ++ c :: rest))) = some ([key], c :: rest) := by
  obtain ⟨d, chars, hchars, hd, -⟩ := hwrites.head_ne
  have hfront : dropBlanks (text ++ (after ++ c :: rest)) = text ++ (after ++ c :: rest) := by
    rw [hchars]
    exact dropBlanks_of_head (by simpa using hd)
  have hback : dropBlanks (after ++ c :: rest) = c :: rest := by
    rw [dropBlanks_blank hafter]
    exact dropBlanks_of_head (by simpa using hblank)
  have hends : ∀ e ∈ (after ++ c :: rest).head?, isBareChar e = false := by
    intro e he
    cases after with
    | nil =>
        cases he
        exact hbare
    | cons _ after =>
        cases he
        rcases eq_of_isBlank (hafter e List.mem_cons_self) with rfl | rfl <;> decide
  obtain ⟨parts, hparts⟩ : ∃ parts, (before ++ (text ++ (after ++ c :: rest))).length =
      parts + 1 := ⟨(before ++ (text ++ (after ++ c :: rest))).length - 1, by simp; omega⟩
  rw [Toml.key?, hparts, keyWithin, dropBlanks_blank hbefore, hfront, hwrites.keyPart? hends,
    Option.bind_eq_bind, Option.bind_some]
  dsimp only
  rw [hback]
  split
  · rename_i hsame
    cases hsame
    exact absurd rfl hpoint
  · rfl

/-! ## Numbers -/

/-- Digits, with single underscores between them or without. -/
inductive Grouped : List Char → List Char → Prop where
  | last {d : Char} (hdigit : d.isDigit = true) : Grouped [d] [d]
  | next {d : Char} {digits text : List Char} (hdigit : d.isDigit = true)
      (hrest : Grouped digits text) : Grouped (d :: digits) (d :: text)
  | spaced {d : Char} {digits text : List Char} (hdigit : d.isDigit = true)
      (hrest : Grouped digits text) : Grouped (d :: digits) (d :: '_' :: text)

/-- A natural number in decimal without leading zeros, with or without a plus sign. -/
inductive WritesNatural : Nat → List Char → Prop where
  | digits {n : Nat} {text : List Char} (hdigits : Grouped (Nat.toDigits 10 n) text) :
      WritesNatural n text
  | plus {n : Nat} {text : List Char} (hdigits : Grouped (Nat.toDigits 10 n) text) :
      WritesNatural n ('+' :: text)

theorem grouped_self (hsome : digits ≠ []) (hdigits : ∀ c ∈ digits, c.isDigit = true) :
    Grouped digits digits := by
  induction digits with
  | nil => exact absurd rfl hsome
  | cons d digits ih =>
      rw [List.forall_mem_cons] at hdigits
      cases digits with
      | nil => exact .last hdigits.1
      | cons e digits => exact .next hdigits.1 (ih (by simp) hdigits.2)

theorem Grouped.head (hgrouped : Grouped digits text) :
    ∃ d others chars, digits = d :: others ∧ text = d :: chars ∧ d.isDigit = true := by
  cases hgrouped with
  | last hdigit => exact ⟨_, _, _, rfl, rfl, hdigit⟩
  | next hdigit hrest => exact ⟨_, _, _, rfl, rfl, hdigit⟩
  | spaced hdigit hrest => exact ⟨_, _, _, rfl, rfl, hdigit⟩

theorem Grouped.mem (hgrouped : Grouped digits text) (hc : c ∈ text) :
    c.isDigit = true ∨ c = '_' := by
  induction hgrouped with
  | last hdigit =>
      rw [List.mem_singleton] at hc
      exact .inl (hc ▸ hdigit)
  | next hdigit hrest ih =>
      rcases List.mem_cons.1 hc with rfl | hc
      · exact .inl hdigit
      · exact ih hc
  | spaced hdigit hrest ih =>
      rcases List.mem_cons.1 hc with rfl | hc
      · exact .inl hdigit
      rcases List.mem_cons.1 hc with rfl | hc
      · exact .inr rfl
      · exact ih hc

theorem Grouped.digits? (hgrouped : Grouped digits text) :
    digits? Char.isDigit text = some digits := by
  induction hgrouped with
  | last hdigit => simp [Toml.digits?, hdigit]
  | @next d digits text hdigit hrest ih =>
      obtain ⟨e, others, chars, -, rfl, he⟩ := hrest.head
      have hline : e ≠ '_' := by
        rintro rfl
        cases he
      rw [Toml.digits?, if_pos hdigit, ih]
      · rfl
      · exact hline
  | spaced hdigit hrest ih =>
      rw [Toml.digits?, if_pos hdigit, ih]
      rfl

theorem decimal?_grouped {n : Nat} (hgrouped : Grouped (Nat.toDigits 10 n) text) :
    decimal? text = some (Nat.toDigits 10 n) := by
  rw [decimal?, hgrouped.digits?]
  split
  · rename_i d others hzero
    have hn : n = 0 := Text.toDigits_head_zero n (by rw [Option.some.inj hzero]; rfl)
    subst hn
    cases hzero
  · rfl

theorem valueOf_digits {start : Nat} (hdigits : ∀ c ∈ digits, c.isDigit = true) :
    digits.foldl (fun n c => 10 * n + digitValue c) start = Nat.ofDigitChars 10 digits start := by
  induction digits generalizing start with
  | nil => rfl
  | cons d digits ih =>
      rw [List.forall_mem_cons] at hdigits
      rw [List.foldl_cons, Nat.ofDigitChars_cons, ih hdigits.2, digitValue, if_pos hdigits.1]

theorem valueOf_toDigits (n : Nat) : valueOf 10 (Nat.toDigits 10 n) = n := by
  have hdenotes := Text.denotes_toDigits n
  rw [valueOf, valueOf_digits hdenotes.isDigit, hdenotes.value]

theorem integer?_grouped {n : Nat} (hgrouped : Grouped (Nat.toDigits 10 n) text) :
    integer? text = some (n : Int) := by
  have hbase {b : Char} {chars : List Char} (hchars : text = '0' :: b :: chars) :
      b.isDigit = true ∨ b = '_' := hgrouped.mem (by simp [hchars])
  have hsigned : signed text = (false, text) := by
    obtain ⟨d, others, chars, -, rfl, hd⟩ := hgrouped.head
    unfold signed
    split
    · rename_i hsame
      cases hsame
      cases hd
    · rename_i hsame
      cases hsame
      cases hd
    · rfl
  unfold integer?
  split
  · exact absurd (hbase rfl) (by decide)
  · exact absurd (hbase rfl) (by decide)
  · exact absurd (hbase rfl) (by decide)
  · rw [hsigned]
    simp [decimal?_grouped hgrouped, valueOf_toDigits]

theorem WritesNatural.integer? {n : Nat} (hwrites : WritesNatural n text) :
    integer? text = some (n : Int) := by
  cases hwrites with
  | digits hdigits => exact integer?_grouped hdigits
  | plus hdigits => simp [Toml.integer?, signed, decimal?_grouped hdigits, valueOf_toDigits]

/-! ## Values without marks -/

theorem date?_eq_none (hhyphen : '-' ∉ text) : date? text = none := by
  cases hyear : fixed? 4 text with
  | none => simp [date?, hyear]
  | some found =>
      obtain ⟨year, tail⟩ := found
      have htail : text.drop 4 = tail := by
        unfold fixed? at hyear
        dsimp only at hyear
        split at hyear
        · exact (Prod.ext_iff.1 (Option.some.inj hyear)).2
        · cases hyear
      have hexpect : expect? '-' tail = none := by
        cases tail with
        | nil => rfl
        | cons d tail =>
            have hd : d ∈ text := List.mem_of_mem_drop (htail ▸ List.mem_cons_self)
            refine if_neg ?_
            rintro rfl
            exact hhyphen hd
      simp [date?, hyear, hexpect]

/-- A value without marks is split off whole, unless it might be a date. -/
theorem splitScalar_token (htoken : ∀ c ∈ text, isScalarChar c = true) (hhyphen : '-' ∉ text)
    (hends : endsLine rest = true) : splitScalar (text ++ rest) = (text, rest) := by
  have hrest : ∀ c ∈ rest.head?, isScalarChar c = false := by
    intro c hc
    rcases head_of_endsLine hends hc with rfl | rfl | rfl | rfl | rfl <;> decide
  simp only [splitScalar, Text.takeWhile_before htoken hrest,
    Text.dropWhile_before htoken hrest, date?_eq_none hhyphen]

/-- How a text, a natural number or a truth value is written. -/
inductive Value.Writes : Value → List Char → Prop where
  | text {content : String} {text : List Char} (hwrites : Quotes.Writes content text) :
      Writes (.text content) text
  | natural {n : Nat} {text : List Char} (hwrites : WritesNatural n text)
      (hrange : n < Nat.pow 2 128) : Writes (.scalar (.integer n)) text
  | boolean (truth : Bool) :
      Writes (.scalar (.boolean truth)) (if truth then "true".toList else "false".toList)

theorem WritesNatural.isScalarChar {n : Nat} (hwrites : WritesNatural n text) (hc : c ∈ text) :
    c.isDigit = true ∨ c = '_' ∨ c = '+' := by
  cases hwrites with
  | digits hdigits => exact (hdigits.mem hc).imp_right .inl
  | plus hdigits =>
      rcases List.mem_cons.1 hc with rfl | hc
      · exact .inr (.inr rfl)
      · exact (hdigits.mem hc).imp_right .inl

/-- A value that starts with none of the marks and brackets is read as a scalar. -/
theorem readValue_scalar {scalar : Scalar} (htoken : ∀ c ∈ text, isScalarChar c = true)
    (hhyphen : '-' ∉ text) (hscalar : scalarOf? text = some scalar)
    (hends : endsLine rest = true) :
    readValue maxDepth (text ++ rest) = some (.scalar scalar, rest) := by
  have hread : Toml.scalar (text ++ rest) = some (scalar, rest) := by
    rw [Toml.scalar, splitScalar_token htoken hhyphen hends]
    simp [hscalar]
  have hhead : ∀ c ∈ (text ++ rest).head?, c ∉ ['"', '\x27', '[', '\x7b'] := by
    intro c hc hmark
    simp only [List.mem_cons, List.not_mem_nil, or_false] at hmark
    cases text with
    | nil =>
        rcases head_of_endsLine hends hc with rfl | rfl | rfl | rfl | rfl <;> simp at hmark
    | cons _ chars =>
        cases hc
        have hc := htoken c List.mem_cons_self
        rcases hmark with rfl | rfl | rfl | rfl <;> exact absurd hc (by decide)
  rw [readValue.eq_def]
  dsimp only
  generalize text ++ rest = input at hread hhead
  cases input with
  | nil => simp [quoted?, hread]
  | cons c chars =>
      have hc := hhead c rfl
      simp only [List.mem_cons, List.not_mem_nil, or_false, not_or] at hc
      have hquoted : quoted? (c :: chars) = none := by simp [quoted?, hc]
      rw [hquoted]
      simp [hc, hread]

/-- A value is read where its line ends. -/
theorem Value.Writes.readValue {value : Value} (hwrites : Value.Writes value text)
    (hends : endsLine rest = true) :
    readValue maxDepth (text ++ rest) = some (value, rest) := by
  cases hwrites with
  | text hwrites =>
      rw [readValue.eq_def]
      simp [hwrites.quoted? hends]
  | @natural n _ hwrites hrange =>
      have htoken {c : Char} (hc : c ∈ text) : isScalarChar c = true ∧ c ≠ '-' := by
        rcases hwrites.isScalarChar hc with hdigit | rfl | rfl
        · refine ⟨by simp [isScalarChar, Char.isAlphanum, hdigit], ?_⟩
          rintro rfl
          cases hdigit
        · decide
        · decide
      have hletter : 'e' ∉ text := fun hc => by
        rcases hwrites.isScalarChar hc with hdigit | hline | hplus
        · cases hdigit
        · cases hline
        · cases hplus
      have hword {word : List Char} (hword : 'e' ∈ word) : text ≠ word := by
        rintro rfl
        exact hletter hword
      have hinteger : isInRange n = true := by
        rw [isInRange, if_neg (by omega)]
        simpa using hrange
      refine readValue_scalar (fun c hc => (htoken hc).1) (fun hc => (htoken hc).2 rfl) ?_ hends
      rw [scalarOf?, if_neg (hword (by decide)), if_neg (hword (by decide)), hwrites.integer?]
      simp [hinteger]
  | boolean truth =>
      cases truth with
      | true => exact readValue_scalar (by simp [isScalarChar]) (by simp) rfl hends
      | false => exact readValue_scalar (by simp [isScalarChar]) (by simp) rfl hends

end BearerClient.Toml
