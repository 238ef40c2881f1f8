import BearerClient.Text.Utf8

/-!
# The octets of a text

Different texts have different octets, and the octets of two texts one after
the other are those of the two.  An octet of ASCII among them is a character of
its own.
-/

namespace BearerClient.Text

theorem utf8_append (first second : String) :
    utf8 (first ++ second) = utf8 first ++ utf8 second := by
  simp [utf8]

theorem utf8_injective {first second : String}
    (h : utf8 first = utf8 second) : first = second := by
  have hbytes : first.toList.utf8Encode = second.toList.utf8Encode :=
    congrArg List.toByteArray h
  rw [String.utf8Encode_toList, String.utf8Encode_toList] at hbytes
  exact String.toByteArray_inj.1 hbytes

namespace Utf8

/-! ## Leading octets -/

section

variable {a low high : UInt8}

theorem Lead.one_range (hlead : Lead.of a = .one) : a.toNat ≤ 0x7F := by
  unfold Lead.of at hlead
  simp only [UInt8.le_iff_toNat_le, UInt8.reduceToNat] at hlead
  (repeat' split at hlead) <;> cases hlead
  assumption

theorem Lead.two_range (hlead : Lead.of a = .two) : 0xC2 ≤ a.toNat ∧ a.toNat ≤ 0xDF := by
  unfold Lead.of at hlead
  simp only [UInt8.le_iff_toNat_le, UInt8.lt_iff_toNat_lt, UInt8.reduceToNat] at hlead
  (repeat' split at hlead) <;> cases hlead
  omega

/-- Of three octets, the second one rules out what two octets hold, and surrogates. -/
theorem Lead.three_range (hlead : Lead.of a = .three low high) :
    0xE0 ≤ a.toNat ∧ a.toNat ≤ 0xEF ∧ 0x80 ≤ low.toNat ∧ high.toNat ≤ 0xBF ∧
      (a.toNat = 0xE0 → 0xA0 ≤ low.toNat) ∧ (a.toNat = 0xED → high.toNat ≤ 0x9F) := by
  unfold Lead.of at hlead
  simp only [UInt8.le_iff_toNat_le, UInt8.lt_iff_toNat_lt, UInt8.reduceToNat,
    ← UInt8.toNat_inj] at hlead
  (repeat' split at hlead) <;> cases hlead <;> simp only [UInt8.reduceToNat] <;> omega

/-- Of four octets, the second one rules out what three octets hold, and what is beyond Unicode. -/
theorem Lead.four_range (hlead : Lead.of a = .four low high) :
    0xF0 ≤ a.toNat ∧ a.toNat ≤ 0xF4 ∧ 0x80 ≤ low.toNat ∧ high.toNat ≤ 0xBF ∧
      (a.toNat = 0xF0 → 0x90 ≤ low.toNat) ∧ (a.toNat = 0xF4 → high.toNat ≤ 0x8F) := by
  unfold Lead.of at hlead
  simp only [UInt8.le_iff_toNat_le, UInt8.lt_iff_toNat_lt, UInt8.reduceToNat,
    ← UInt8.toNat_inj] at hlead
  (repeat' split at hlead) <;> cases hlead <;> simp only [UInt8.reduceToNat] <;> omega

end

theorem isTail_range {b : UInt8} (htail : isTail b = true) : 0x80 ≤ b.toNat ∧ b.toNat ≤ 0xBF := by
  simpa [isTail, UInt8.le_iff_toNat_le] using htail

/-! ## Octets of ASCII -/

/-- The octets of a character after its first are no characters themselves. -/
theorem first_skips (a : UInt8) (rest : Bytes) :
    ∀ b ∈ rest.take (first a rest).2, 0x80 ≤ b.toNat := by
  unfold first
  split
  case h_1 => simp
  case h_2 => simp
  case h_3 => simp
  case h_4 b _ _ =>
    split
    case isTrue htail => simpa using (isTail_range htail).1
    case isFalse => simp
  case h_5 => simp
  case h_6 low high b rest hlead =>
    split
    case isFalse => simp
    case isTrue hrange =>
      have hb : 0x80 ≤ b.toNat := Nat.le_trans (Lead.three_range hlead).2.2.1 hrange.1
      split
      case h_1 => simpa using hb
      case h_2 c _ =>
        split
        case isTrue htail => simpa using ⟨hb, (isTail_range htail).1⟩
        case isFalse => simpa using hb
  case h_7 => simp
  case h_8 low high b rest hlead =>
    split
    case isFalse => simp
    case isTrue hrange =>
      have hb : 0x80 ≤ b.toNat := Nat.le_trans (Lead.four_range hlead).2.2.1 hrange.1
      split
      case h_1 => simpa using hb
      case h_2 c rest =>
        split
        case isFalse => simpa using hb
        case isTrue htail =>
          split
          case h_1 => simpa using ⟨hb, (isTail_range htail).1⟩
          case h_2 d _ =>
            split
            case isTrue hlast =>
              simpa using ⟨hb, (isTail_range htail).1, (isTail_range hlast).1⟩
            case isFalse => simpa using ⟨hb, (isTail_range htail).1⟩

theorem mem_piecesAfter {b : UInt8} (hb : b.toNat < 0x80) {octets : Bytes}
    {skip : Nat} (hskip : ∀ a ∈ octets.take skip, 0x80 ≤ a.toNat)
    (hmem : b ∈ octets) : .char (Char.ofNat b.toNat) ∈ piecesAfter skip octets := by
  induction octets generalizing skip with
  | nil => cases hmem
  | cons a rest ih =>
      cases skip with
      | succ skip =>
          simp only [List.take_succ_cons, List.forall_mem_cons] at hskip
          rw [piecesAfter]
          refine ih hskip.2 ((List.mem_cons.1 hmem).resolve_left ?_)
          rintro rfl
          omega
      | zero =>
          rw [piecesAfter]
          rcases List.mem_cons.1 hmem with rfl | hmem
          · have hone : Lead.of b = .one := if_pos (Nat.le_of_lt_succ hb)
            simp [first, hone]
          · exact List.mem_cons_of_mem _ (ih (first_skips a rest) hmem)

theorem mem_of_charsFrom {c : Char} {pieces : List Piece} {index : Nat}
    {chars : List Char} (hchars : charsFrom index pieces = .ok chars)
    (hmem : .char c ∈ pieces) : c ∈ chars := by
  induction pieces generalizing index chars with
  | nil => cases hmem
  | cons piece rest ih =>
      cases piece with
      | broken length => cases hchars
      | cut => cases hchars
      | char d =>
          rw [charsFrom] at hchars
          cases hrest : charsFrom (index + d.utf8Size) rest with
          | error fault =>
              rw [hrest] at hchars
              cases hchars
          | ok others =>
              rw [hrest] at hchars
              cases hchars
              rcases List.mem_cons.1 hmem with hsame | hmem
              · cases hsame
                exact List.mem_cons_self
              · exact List.mem_cons_of_mem _ (ih hrest hmem)

/-- An octet of ASCII is a character of the text that it is read as a part of. -/
theorem mem_of_decode? {octets : Bytes} {text : String}
    (htext : decode? octets = some text) {b : UInt8} (hb : b.toNat < 0x80)
    (hmem : b ∈ octets) : Char.ofNat b.toNat ∈ text.toList := by
  have hpiece : .char (Char.ofNat b.toNat) ∈ pieces octets :=
    mem_piecesAfter hb (by simp) hmem
  unfold decode? decode at htext
  cases hchars : charsFrom 0 (pieces octets) with
  | error fault =>
      rw [hchars] at htext
      cases htext
  | ok chars =>
      rw [hchars] at htext
      cases htext
      simpa using mem_of_charsFrom hchars hpiece

end Utf8
end BearerClient.Text
