import BearerClient.Proofs.Text.Utf8

/-!
# Text read back from its octets

The octets of a character are one piece, whatever octets follow them, and that piece is the
character.  So the octets of a text are read back as the text, and as nothing else, by the strict
reading and by the one that puts replacement characters.  And what the strict reading takes for a
character are its octets, so octets are a text for it only if they are the octets of that text.
-/

namespace BearerClient.Text.Utf8

/-! ## Leading octets -/

variable {a : UInt8}

theorem Lead.of_two (hlow : 0xC2 ≤ a.toNat) (hhigh : a.toNat ≤ 0xDF) : Lead.of a = .two := by
  unfold Lead.of
  simp only [UInt8.le_iff_toNat_le, UInt8.lt_iff_toNat_lt, UInt8.reduceToNat]
  rw [if_neg (by omega), if_neg (by omega), if_pos hhigh]

/-- What may follow the first of three octets. -/
theorem Lead.of_three (hlow : 0xE0 ≤ a.toNat) (hhigh : a.toNat ≤ 0xEF) :
    ∃ low high, Lead.of a = .three low high ∧ ∀ b : UInt8, isTail b = true →
      (a.toNat = 0xE0 → 0xA0 ≤ b.toNat) → (a.toNat = 0xED → b.toNat ≤ 0x9F) →
      low ≤ b ∧ b ≤ high := by
  unfold Lead.of isTail
  simp only [UInt8.le_iff_toNat_le, UInt8.lt_iff_toNat_lt, UInt8.reduceToNat, ← UInt8.toNat_inj,
    Bool.and_eq_true, decide_eq_true_eq]
  rw [if_neg (by omega), if_neg (by omega), if_neg (by omega)]
  split
  · exact ⟨_, _, rfl, fun b hb hfirst _ => ⟨hfirst ‹_›, hb.2⟩⟩
  split
  · exact ⟨_, _, rfl, fun b hb _ hsurrogate => ⟨hb.1, hsurrogate ‹_›⟩⟩
  · exact ⟨_, _, rfl, fun b hb _ _ => hb⟩

/-- What may follow the first of four octets. -/
theorem Lead.of_four (hlow : 0xF0 ≤ a.toNat) (hhigh : a.toNat ≤ 0xF4) :
    ∃ low high, Lead.of a = .four low high ∧ ∀ b : UInt8, isTail b = true →
      (a.toNat = 0xF0 → 0x90 ≤ b.toNat) → (a.toNat = 0xF4 → b.toNat ≤ 0x8F) →
      low ≤ b ∧ b ≤ high := by
  unfold Lead.of isTail
  simp only [UInt8.le_iff_toNat_le, UInt8.lt_iff_toNat_lt, UInt8.reduceToNat, ← UInt8.toNat_inj,
    Bool.and_eq_true, decide_eq_true_eq]
  rw [if_neg (by omega), if_neg (by omega), if_neg (by omega), if_neg (by omega),
    if_neg (by omega), if_neg (by omega)]
  split
  · exact ⟨_, _, rfl, fun b hb hfirst _ => ⟨hfirst ‹_›, hb.2⟩⟩
  split
  · exact ⟨_, _, rfl, fun b hb _ _ => hb⟩
  · have hlast : a.toNat = 0xF4 := by omega
    rw [if_pos hlast]
    exact ⟨_, _, rfl, fun b hb _ hend => ⟨hb.1, hend hlast⟩⟩

/-! ## Whole characters -/

variable {b c d low high : UInt8} {rest : Bytes}

theorem first_one (hlead : Lead.of a = .one) : first a rest = (.char (Char.ofNat a.toNat), 0) := by
  unfold first
  rw [hlead]

theorem first_two (hlead : Lead.of a = .two) (hb : isTail b = true) :
    first a (b :: rest) = (.char (char2 a b), 1) := by
  unfold first
  rw [hlead]
  exact if_pos hb

theorem first_three (hlead : Lead.of a = .three low high) (hb : low ≤ b ∧ b ≤ high)
    (hc : isTail c = true) : first a (b :: c :: rest) = (.char (char3 a b c), 2) := by
  unfold first
  rw [hlead]
  exact (if_pos hb).trans (if_pos hc)

theorem first_four (hlead : Lead.of a = .four low high) (hb : low ≤ b ∧ b ≤ high)
    (hc : isTail c = true) (hd : isTail d = true) :
    first a (b :: c :: d :: rest) = (.char (char4 a b c d), 3) := by
  unfold first
  rw [hlead]
  exact (if_pos hb).trans ((if_pos hc).trans (if_pos hd))

/-! ## Octets of a character -/

/-- The tail octet that carries the low six bits of a number. -/
def tailOctet (n : Nat) : UInt8 := .ofNat (n % 0x40 + 0x80)

theorem toNat_tailOctet (n : Nat) : (tailOctet n).toNat = n % 64 + 0x80 := by
  rw [tailOctet, UInt8.toNat_ofNat']
  omega

@[simp] theorem isTail_tailOctet (n : Nat) : isTail (tailOctet n) = true := by
  simp only [isTail, Bool.and_eq_true, decide_eq_true_eq, UInt8.le_iff_toNat_le,
    UInt8.reduceToNat, toNat_tailOctet]
  omega

@[simp] theorem tailBits_tailOctet (n : Nat) : tailBits (tailOctet n) = n % 64 := by
  rw [tailBits, toNat_tailOctet]
  omega

/-- The octets of a character by its number: one octet for ASCII, and two to four for others. -/
theorem encodeChar_eq (c : Char) :
    String.utf8EncodeChar c =
      if c.toNat ≤ 0x7F then [.ofNat c.toNat]
      else if c.toNat ≤ 0x7FF then [.ofNat (c.toNat / 64 % 0x20 + 0xC0), tailOctet c.toNat]
      else if c.toNat ≤ 0xFFFF then
        [.ofNat (c.toNat / 4096 % 0x10 + 0xE0), tailOctet (c.toNat / 64), tailOctet c.toNat]
      else
        [.ofNat (c.toNat / 262144 % 0x08 + 0xF0), tailOctet (c.toNat / 4096),
          tailOctet (c.toNat / 64), tailOctet c.toNat] := rfl

/-- A character at the front is the piece at the front. -/
theorem first_encodeChar (c : Char) :
    ∃ a tail, String.utf8EncodeChar c = a :: tail ∧
      ∀ rest, first a (tail ++ rest) = (.char c, tail.length) := by
  have hvalid : c.toNat < 0xD800 ∨ 0xDFFF < c.toNat ∧ c.toNat < 0x110000 := c.valid
  have hchar : ∀ n, n = c.toNat → Piece.char (Char.ofNat n) = .char c :=
    fun n hn => by rw [hn, Char.ofNat_toNat]
  rw [encodeChar_eq]
  split
  case isTrue hone =>
    refine ⟨_, _, rfl, fun rest => ?_⟩
    have ha : (UInt8.ofNat c.toNat).toNat = c.toNat := by rw [UInt8.toNat_ofNat']; omega
    have hlead : Lead.of (.ofNat c.toNat) = .one :=
      if_pos (UInt8.le_iff_toNat_le.2 (by rw [ha]; exact hone))
    rw [first_one hlead, hchar _ ha]
    rfl
  split
  case isTrue htwo =>
    refine ⟨_, _, rfl, fun rest => ?_⟩
    generalize hlead : UInt8.ofNat (c.toNat / 64 % 0x20 + 0xC0) = a
    have ha : a.toNat = c.toNat / 64 + 0xC0 := by rw [← hlead, UInt8.toNat_ofNat']; omega
    have hfirst : first a (tailOctet c.toNat :: rest) = _ :=
      first_two (Lead.of_two (by omega) (by omega)) (isTail_tailOctet c.toNat)
    rw [char2, tailBits_tailOctet, ha, hchar _ (by omega)] at hfirst
    exact hfirst
  split
  case isTrue hthree =>
    refine ⟨_, _, rfl, fun rest => ?_⟩
    generalize hlead : UInt8.ofNat (c.toNat / 4096 % 0x10 + 0xE0) = a
    have ha : a.toNat = c.toNat / 4096 + 0xE0 := by rw [← hlead, UInt8.toNat_ofNat']; omega
    obtain ⟨low, high, hof, hrange⟩ := Lead.of_three (a := a) (by omega) (by omega)
    have hb := hrange _ (isTail_tailOctet (c.toNat / 64)) (by rw [toNat_tailOctet]; omega)
      (by rw [toNat_tailOctet]; omega)
    have hfirst : first a (tailOctet (c.toNat / 64) :: tailOctet c.toNat :: rest) = _ :=
      first_three hof hb (isTail_tailOctet c.toNat)
    rw [char3, tailBits_tailOctet, tailBits_tailOctet, ha, hchar _ (by omega)] at hfirst
    exact hfirst
  case isFalse hfour =>
    refine ⟨_, _, rfl, fun rest => ?_⟩
    generalize hlead : UInt8.ofNat (c.toNat / 262144 % 0x08 + 0xF0) = a
    have ha : a.toNat = c.toNat / 262144 + 0xF0 := by rw [← hlead, UInt8.toNat_ofNat']; omega
    obtain ⟨low, high, hof, hrange⟩ := Lead.of_four (a := a) (by omega) (by omega)
    have hb := hrange _ (isTail_tailOctet (c.toNat / 4096)) (by rw [toNat_tailOctet]; omega)
      (by rw [toNat_tailOctet]; omega)
    have hfirst : first a (tailOctet (c.toNat / 4096) :: tailOctet (c.toNat / 64) ::
        tailOctet c.toNat :: rest) = _ :=
      first_four hof hb (isTail_tailOctet (c.toNat / 64)) (isTail_tailOctet c.toNat)
    rw [char4, tailBits_tailOctet, tailBits_tailOctet, tailBits_tailOctet, ha,
      hchar _ (by omega)] at hfirst
    exact hfirst

/-! ## Texts -/

theorem piecesAfter_append (passed rest : Bytes) :
    piecesAfter passed.length (passed ++ rest) = piecesAfter 0 rest := by
  induction passed with
  | nil => rfl
  | cons a passed ih => exact ih

theorem pieces_encodeChar (c : Char) (rest : Bytes) :
    pieces (String.utf8EncodeChar c ++ rest) = .char c :: pieces rest := by
  obtain ⟨a, tail, hchar, hfirst⟩ := first_encodeChar c
  rw [hchar, List.cons_append, pieces, piecesAfter, hfirst, piecesAfter_append]
  rfl

/-- The pieces of a text are its characters. -/
theorem pieces_utf8 (text : String) (rest : Bytes) :
    pieces (utf8 text ++ rest) = text.toList.map .char ++ pieces rest := by
  unfold utf8
  induction text.toList with
  | nil => rfl
  | cons c chars ih =>
      rw [List.flatMap_cons, List.append_assoc, pieces_encodeChar, ih]
      rfl

theorem pieces_utf8_eq (text : String) : pieces (utf8 text) = text.toList.map .char := by
  have hpieces := pieces_utf8 text []
  rwa [List.append_nil, show pieces [] = [] from rfl, List.append_nil] at hpieces

theorem charsFrom_map_char (chars : List Char) (index : Nat) :
    charsFrom index (chars.map .char) = .ok chars := by
  induction chars generalizing index with
  | nil => rfl
  | cons c chars ih =>
      rw [List.map_cons, charsFrom, ih]
      rfl

@[simp] theorem decode_utf8 (text : String) : decode (utf8 text) = .ok text := by
  rw [decode, pieces_utf8_eq, charsFrom_map_char]
  exact congrArg Except.ok String.ofList_toList

@[simp] theorem decodeLossy_utf8 (text : String) : decodeLossy (utf8 text) = text := by
  rw [decodeLossy, pieces_utf8_eq, List.map_map]
  exact (congrArg String.ofList (List.map_id _)).trans String.ofList_toList

/-! ## Octets that are read -/

theorem toNat_ofNat {n : Nat} (hn : n.isValidChar) : (Char.ofNat n).toNat = n := by
  rw [Char.ofNat, dif_pos hn]
  rfl

theorem ofNat_eq {n : Nat} (hn : n = a.toNat) : UInt8.ofNat n = a := by
  rw [hn, UInt8.ofNat_toNat]

theorem isTail_of_range (hb : low ≤ b ∧ b ≤ high) (hlow : 0x80 ≤ low.toNat)
    (hhigh : high.toNat ≤ 0xBF) : isTail b = true := by
  simp only [UInt8.le_iff_toNat_le] at hb
  simp only [isTail, UInt8.le_iff_toNat_le, UInt8.reduceToNat, Bool.and_eq_true, decide_eq_true_eq]
  omega

theorem tailOctet_eq {n : Nat} (hb : isTail b = true) (hn : n % 64 = b.toNat % 64) :
    tailOctet n = b := by
  have hrange := isTail_range hb
  exact ofNat_eq (by omega)

theorem encode_char1 (hlead : Lead.of a = .one) :
    String.utf8EncodeChar (Char.ofNat a.toNat) = [a] := by
  have ha := Lead.one_range hlead
  rw [encodeChar_eq, toNat_ofNat (.inl (by omega)), if_pos ha, UInt8.ofNat_toNat]

theorem encode_char2 (hlead : Lead.of a = .two) (hb : isTail b = true) :
    String.utf8EncodeChar (char2 a b) = [a, b] := by
  have ha := Lead.two_range hlead
  have hvalue : (char2 a b).toNat = a.toNat % 32 * 64 + b.toNat % 64 :=
    toNat_ofNat (.inl (by unfold tailBits; omega))
  rw [encodeChar_eq, hvalue, if_neg (by omega), if_pos (by omega), ofNat_eq (a := a) (by omega),
    tailOctet_eq hb (by omega)]

theorem encode_char3 (hlead : Lead.of a = .three low high) (hb : low ≤ b ∧ b ≤ high)
    (hc : isTail c = true) : String.utf8EncodeChar (char3 a b c) = [a, b, c] := by
  have ha := Lead.three_range hlead
  have htail := isTail_of_range hb (by omega) (by omega)
  simp only [UInt8.le_iff_toNat_le] at hb
  have hvalue : (char3 a b c).toNat =
      a.toNat % 16 * 4096 + b.toNat % 64 * 64 + c.toNat % 64 :=
    toNat_ofNat (by unfold Nat.isValidChar tailBits; omega)
  rw [encodeChar_eq, hvalue, if_neg (by omega), if_neg (by omega), if_pos (by omega),
    ofNat_eq (a := a) (by omega), tailOctet_eq htail (by omega), tailOctet_eq hc (by omega)]

theorem encode_char4 (hlead : Lead.of a = .four low high) (hb : low ≤ b ∧ b ≤ high)
    (hc : isTail c = true) (hd : isTail d = true) :
    String.utf8EncodeChar (char4 a b c d) = [a, b, c, d] := by
  have ha := Lead.four_range hlead
  have htail := isTail_of_range hb (by omega) (by omega)
  simp only [UInt8.le_iff_toNat_le] at hb
  have hvalue : (char4 a b c d).toNat =
      a.toNat % 8 * 262144 + b.toNat % 64 * 4096 + c.toNat % 64 * 64 + d.toNat % 64 :=
    toNat_ofNat (by unfold Nat.isValidChar tailBits; omega)
  rw [encodeChar_eq, hvalue, if_neg (by omega), if_neg (by omega), if_neg (by omega),
    ofNat_eq (a := a) (by omega), tailOctet_eq htail (by omega), tailOctet_eq hc (by omega),
    tailOctet_eq hd (by omega)]

/-- A character that is read at the front is written there. -/
theorem encodeChar_of_first {x : Char} {skip : Nat} (hfirst : first a rest = (.char x, skip)) :
    a :: rest = String.utf8EncodeChar x ++ rest.drop skip := by
  unfold first at hfirst
  split at hfirst
  case h_1 hlead =>
    cases hfirst
    rw [encode_char1 hlead]
    rfl
  case h_4 hlead =>
    split at hfirst <;> cases hfirst
    rw [encode_char2 hlead ‹_›]
    rfl
  case h_6 hlead =>
    split at hfirst
    · split at hfirst
      · cases hfirst
      · split at hfirst <;> cases hfirst
        rw [encode_char3 hlead ‹_› ‹_›]
        rfl
    · cases hfirst
  case h_8 hlead =>
    split at hfirst
    · split at hfirst
      · cases hfirst
      · split at hfirst
        · split at hfirst
          · cases hfirst
          · split at hfirst <;> cases hfirst
            rw [encode_char4 hlead ‹_› ‹_› ‹_›]
            rfl
        · cases hfirst
    · cases hfirst
  all_goals cases hfirst

theorem drop_of_charsFrom {octets : Bytes} {skip index : Nat} {chars : List Char}
    (hchars : charsFrom index (piecesAfter skip octets) = .ok chars) :
    octets.drop skip = chars.flatMap String.utf8EncodeChar := by
  induction octets generalizing skip index chars with
  | nil =>
      rw [piecesAfter] at hchars
      cases hchars
      exact List.drop_nil
  | cons a rest ih =>
      cases skip with
      | succ skip => exact ih hchars
      | zero =>
          rw [piecesAfter] at hchars
          cases hfirst : first a rest with
          | mk piece skip =>
              rw [hfirst] at hchars
              cases piece with
              | broken length => cases hchars
              | cut => cases hchars
              | char x =>
                  rw [charsFrom] at hchars
                  cases hothers : charsFrom (index + x.utf8Size) (piecesAfter skip rest) with
                  | error fault =>
                      rw [hothers] at hchars
                      cases hchars
                  | ok others =>
                      rw [hothers] at hchars
                      cases hchars
                      rw [List.drop_zero, encodeChar_of_first hfirst, ih hothers]
                      rfl

/-- Octets are text exactly if they are the octets of one. -/
theorem decode?_eq_some_iff {octets : Bytes} {text : String} :
    decode? octets = some text ↔ octets = utf8 text := by
  constructor
  · intro htext
    unfold decode? decode pieces at htext
    cases hchars : charsFrom 0 (piecesAfter 0 octets) with
    | error fault =>
        rw [hchars] at htext
        cases htext
    | ok chars =>
        rw [hchars] at htext
        cases htext
        rw [utf8, String.toList_ofList]
        exact drop_of_charsFrom hchars
  · rintro rfl
    rw [decode?, decode_utf8]
    rfl

theorem decode?_eq_none_iff {octets : Bytes} :
    decode? octets = none ↔ ∀ text, octets ≠ utf8 text := by
  rw [Option.eq_none_iff_forall_ne_some]
  exact forall_congr' fun text => not_congr decode?_eq_some_iff

@[simp] theorem decode?_utf8 (text : String) : decode? (utf8 text) = some text :=
  decode?_eq_some_iff.2 rfl

end BearerClient.Text.Utf8
