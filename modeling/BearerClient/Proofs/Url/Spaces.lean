import BearerClient.Proofs.Text.Utf8
import BearerClient.Url.Host

/-!
# Spaces and controls in host names

A space or a control character stays what it is wherever a host name is read: it is
no part of an encoded octet, of a longer character, of a composed letter or of a
number in Punycode.  So it is still there when the name is checked, and no name that
holds one is accepted.
-/

namespace BearerClient

/-! ## Octets -/

theorem Url.hexValue?_of_le {b : UInt8} (hb : b.toNat ≤ 0x20) :
    hexValue? b = none := by
  have hdigit : ¬0x30 ≤ b := fun h => absurd (Nat.le_trans h hb) (by decide)
  have hupper : ¬0x41 ≤ b := fun h => absurd (Nat.le_trans h hb) (by decide)
  have hlower : ¬0x61 ≤ b := fun h => absurd (Nat.le_trans h hb) (by decide)
  rw [hexValue?, if_neg fun h => hdigit h.1, if_neg fun h => hupper h.1,
    if_neg fun h => hlower h.1]

theorem Url.mem_decodeAfter {b : UInt8} (hhex : hexValue? b = none)
    (hpercent : b ≠ 0x25) {octets : Bytes} {skip : Nat}
    (hskip : b ∉ octets.take skip) (hmem : b ∈ octets) :
    b ∈ decodeAfter skip octets := by
  induction octets generalizing skip with
  | nil => cases hmem
  | cons a rest ih =>
      cases skip with
      | succ skip =>
          rw [List.take_succ_cons, List.mem_cons, not_or] at hskip
          rw [decodeAfter]
          exact ih hskip.2 ((List.mem_cons.1 hmem).resolve_left hskip.1)
      | zero =>
          have hstays : b ∈ a :: decodeAfter 0 rest := by
            rcases List.mem_cons.1 hmem with rfl | hmem
            · exact List.mem_cons_self
            · exact List.mem_cons_of_mem _ (ih (by simp) hmem)
          unfold decodeAfter
          split
          case isFalse => exact hstays
          case isTrue hencoded =>
            have hrest : b ∈ rest := by
              refine (List.mem_cons.1 hmem).resolve_left ?_
              rw [hencoded]
              exact hpercent
            split
            case h_2 => exact hstays
            case h_1 h l after =>
              split
              case h_2 => exact hstays
              case h_1 high low hhigh hlow =>
                refine List.mem_cons_of_mem _ (ih ?_ hrest)
                simp only [List.take_succ_cons, List.take_zero, List.mem_cons,
                  List.not_mem_nil, or_false, not_or]
                constructor <;> rintro rfl <;> simp_all

namespace Url.Idna

theorem mem_of_mapM {α β : Type} {f : α → Option β} {as : List α} {bs : List β}
    (hmap : as.mapM f = some bs) {a : α} (hmem : a ∈ as) :
    ∃ b ∈ bs, f a = some b := by
  induction as generalizing bs with
  | nil => cases hmem
  | cons first rest ih =>
      rw [List.mapM_cons] at hmap
      obtain ⟨b, hb, hmap⟩ := Option.bind_eq_some_iff.1 hmap
      obtain ⟨others, hothers, hmap⟩ := Option.bind_eq_some_iff.1 hmap
      cases hmap
      rcases List.mem_cons.1 hmem with rfl | hmem
      · exact ⟨b, List.mem_cons_self, hb⟩
      · obtain ⟨found, hfound, heq⟩ := ih hothers hmem
        exact ⟨found, List.mem_cons_of_mem _ hfound, heq⟩

theorem mem_intercalate {α : Type} {a separator : α} {parts : List (List α)}
    (hmem : a ∈ [separator].intercalate parts) (hne : a ≠ separator) :
    ∃ part ∈ parts, a ∈ part := by
  induction parts with
  | nil => simp [List.intercalate] at hmem
  | cons part rest ih =>
      cases rest with
      | nil => exact ⟨part, by simp, by simpa [List.intercalate] using hmem⟩
      | cons next rest =>
          rw [List.intercalate_cons_cons, List.append_assoc, List.mem_append,
            List.mem_append, List.mem_singleton] at hmem
          rcases hmem with hmem | hmem | hmem
          · exact ⟨part, by simp, hmem⟩
          · exact absurd hmem hne
          · obtain ⟨found, hfound, hmem⟩ := ih hmem
            exact ⟨found, List.mem_cons_of_mem _ hfound, hmem⟩

variable {c : Char} (hc : c.toNat ≤ 0x20)

theorem mem_insertMark {d : Char} {marks : List Char} (hmem : c = d ∨ c ∈ marks) :
    c ∈ insertMark d marks := by
  induction marks with
  | nil => simpa [insertMark] using hmem
  | cons e rest ih =>
      unfold insertMark
      split
      · simpa using hmem
      · rcases hmem with rfl | hmem
        · exact List.mem_cons_of_mem _ (ih (.inl rfl))
        · rcases List.mem_cons.1 hmem with rfl | hmem
          · exact List.mem_cons_self
          · exact List.mem_cons_of_mem _ (ih (.inr hmem))

theorem mem_ordered {marks text : List Char} (hmem : c ∈ marks ∨ c ∈ text) :
    c ∈ ordered marks text := by
  induction text generalizing marks with
  | nil => simpa [ordered] using hmem
  | cons d rest ih =>
      rw [List.mem_cons] at hmem
      unfold ordered
      split
      · rw [List.mem_append, List.mem_cons]
        rcases hmem with hmem | rfl | hmem
        · exact .inl hmem
        · exact .inr (.inl rfl)
        · exact .inr (.inr (ih (.inr hmem)))
      · apply ih
        rcases hmem with hmem | rfl | hmem
        · exact .inl (mem_insertMark (.inr hmem))
        · exact .inl (mem_insertMark (.inl rfl))
        · exact .inr hmem

include hc

theorem parts_of_le (depth : Nat) : parts depth c = [c] := by
  cases depth with
  | zero => rfl
  | succ depth =>
      have hbelow : c.toNat < firstComposed := Nat.lt_of_le_of_lt hc (by decide)
      rw [parts, if_pos hbelow]

theorem composite?_first (d : Char) : composite? c d = none := by
  have hbelow : c.toNat < firstMarked := Nat.lt_of_le_of_lt hc (by decide)
  rw [composite?, if_pos (.inl hbelow)]

theorem composite?_second (d : Char) : composite? d c = none := by
  have hbelow : c.toNat < firstMark := Nat.lt_of_le_of_lt hc (by decide)
  rw [composite?, if_pos (.inr hbelow)]

theorem mem_composedAfter {letter : Char} {marks text : List Char}
    (hmem : c = letter ∨ c ∈ marks ∨ c ∈ text) :
    c ∈ composedAfter letter marks text := by
  induction text generalizing letter marks with
  | nil => simpa [composedAfter] using hmem
  | cons d rest ih =>
      rw [List.mem_cons] at hmem
      unfold composedAfter
      simp only
      split
      case h_1 joined hjoined =>
        -- Neither part of a composed letter is a space or a control.
        obtain ⟨-, hcomposite⟩ := Option.ite_none_right_eq_some.1 hjoined
        rcases hmem with rfl | hmem | rfl | hmem
        · rw [composite?_first hc] at hcomposite
          cases hcomposite
        · exact ih (.inr (.inl hmem))
        · rw [composite?_second hc] at hcomposite
          cases hcomposite
        · exact ih (.inr (.inr hmem))
      case h_2 =>
        split
        · rw [List.cons_append, List.mem_cons, List.mem_append]
          rcases hmem with hmem | hmem | hmem | hmem
          · exact .inl hmem
          · exact .inr (.inl hmem)
          · exact .inr (.inr (ih (.inl hmem)))
          · exact .inr (.inr (ih (.inr (.inr hmem))))
        · apply ih
          rw [List.mem_append, List.mem_singleton]
          rcases hmem with hmem | hmem | hmem | hmem
          · exact .inl hmem
          · exact .inr (.inl (.inl hmem))
          · exact .inr (.inl (.inr hmem))
          · exact .inr (.inr hmem)

theorem mem_composed {text : List Char} (hmem : c ∈ text) : c ∈ composed text := by
  induction text with
  | nil => cases hmem
  | cons d rest ih =>
      unfold composed
      split
      · exact mem_composedAfter hc (by simpa [List.mem_cons] using hmem)
      · rcases List.mem_cons.1 hmem with rfl | hmem
        · exact List.mem_cons_self
        · exact List.mem_cons_of_mem _ (ih hmem)

theorem mem_normalForm {text : List Char} (hmem : c ∈ text) : c ∈ normalForm text := by
  have hdecomposed : c ∈ decomposed text :=
    List.mem_flatMap.2 ⟨c, hmem, by rw [parts_of_le hc]; exact List.mem_singleton_self c⟩
  exact mem_composed hc (mem_ordered (.inr hdecomposed))

theorem isUpper_of_le : c.isUpper = false := by
  refine decide_eq_false fun hupper => ?_
  have hlow : 65 ≤ c.toNat := hupper.1
  omega

theorem replacement?_of_le : replacement? c = some [c] := by
  have hstatus : statusOf c = .valid := by
    rw [statusOf, if_pos (Nat.lt_of_le_of_lt hc (by decide)), isUpper_of_le hc]
    rfl
  rw [replacement?, hstatus]

theorem isDigit_of_le : c.isDigit = false := by
  rw [Char.isDigit, Bool.and_eq_false_iff, decide_eq_false_iff_not]
  exact .inl fun h => absurd (Nat.le_trans h hc) (by decide)

theorem digitValue?_of_le : Punycode.digitValue? c = none := by
  have hlow : ¬ 'a' ≤ c := fun h => absurd (Nat.le_trans h hc) (by decide)
  have hhigh : ¬ 'A' ≤ c := fun h => absurd (Nat.le_trans h hc) (by decide)
  rw [Punycode.digitValue?, if_neg fun h => hlow h.1, if_neg fun h => hhigh h.1,
    isDigit_of_le hc]
  rfl

end Url.Idna

namespace Url.Punycode

variable {c : Char} {state final : Decoding} {digits : List Char}

theorem mem_insert {distance : Nat} (hinsert : state.insert distance = some final)
    (hmem : c ∈ state.text) : c ∈ final.text := by
  unfold Decoding.insert at hinsert
  simp only [Option.ite_none_right_eq_some] at hinsert
  obtain ⟨-, hinsert⟩ := hinsert
  cases hinsert
  rw [← List.take_append_drop
    ((state.position + distance) % (state.text.length + 1)) state.text] at hmem
  simp only [List.mem_append, List.mem_cons] at hmem ⊢
  rcases hmem with hmem | hmem
  · exact .inl hmem
  · exact .inr (.inr hmem)

theorem mem_digit {d : Char} (hdigit : state.digit d = some final)
    (hmem : c ∈ state.text) : c ∈ final.text := by
  unfold Decoding.digit at hdigit
  split at hdigit
  · cases hdigit
  · simp only at hdigit
    split at hdigit
    · exact mem_insert hdigit hmem
    · cases hdigit
      exact hmem

theorem mem_foldlM (hread : digits.foldlM Decoding.digit state = some final)
    (hmem : c ∈ state.text) : c ∈ final.text := by
  induction digits generalizing state with
  | nil =>
      cases hread
      exact hmem
  | cons d rest ih =>
      rw [List.foldlM_cons] at hread
      obtain ⟨next, hdigit, hread⟩ := Option.bind_eq_some_iff.1 hread
      exact ih hread (mem_digit hdigit hmem)

theorem foldlM_ne_some (hvalue : digitValue? c = none) (hmem : c ∈ digits) :
    digits.foldlM Decoding.digit state ≠ some final := by
  induction digits generalizing state with
  | nil => cases hmem
  | cons d rest ih =>
      intro hread
      rw [List.foldlM_cons] at hread
      obtain ⟨next, hdigit, hread⟩ := Option.bind_eq_some_iff.1 hread
      rcases List.mem_cons.1 hmem with rfl | hmem
      · rw [Decoding.digit, hvalue] at hdigit
        cases hdigit
      · exact ih hmem hread

theorem mem_splitBasic (hne : c ≠ '-') {text : List Char} (hmem : c ∈ text) :
    c ∈ (splitBasic text).1 ∨ c ∈ (splitBasic text).2 := by
  unfold splitBasic
  split
  · exact .inr hmem
  · exact .inr hmem
  · rename_i hyphen before _ hdrop
    have hhyphen : hyphen = '-' := by
      have hhead := List.head?_dropWhile_not (fun c => decide (c ≠ '-')) text.reverse
      rw [hdrop] at hhead
      simpa using hhead
    have hsplit : c ∈ text.reverse.takeWhile (· ≠ '-') ++ text.reverse.dropWhile (· ≠ '-') := by
      rw [List.takeWhile_append_dropWhile]
      exact List.mem_reverse.2 hmem
    rw [hdrop, List.mem_append, List.mem_cons, hhyphen] at hsplit
    rcases hsplit with hsplit | hsplit | hsplit
    · exact .inr (List.mem_reverse.2 hsplit)
    · exact absurd hsplit hne
    · exact .inl (List.mem_reverse.2 hsplit)

/-- A character that is no digit of a number is one of the text. -/
theorem mem_of_decode? (hvalue : digitValue? c = none) (hne : c ≠ '-')
    {text : List Char} (htext : decode? digits = some text) (hmem : c ∈ digits) :
    c ∈ text := by
  unfold decode? at htext
  simp only at htext
  split at htext
  case h_2 => cases htext
  case h_1 state hread =>
    simp only [Option.ite_none_right_eq_some, Option.some.injEq] at htext
    obtain ⟨-, rfl⟩ := htext
    rcases mem_splitBasic hne hmem with hbasic | hdigit
    · exact mem_foldlM hread hbasic
    · exact absurd hread (foldlM_ne_some hvalue hdigit)

end Url.Punycode

namespace Url.Idna

theorem mark_above {c : Char} (hmem : c ∈ mark) : 0x20 < c.toNat := by
  have hmark : mark = ['x', 'n', '-', '-'] := rfl
  simp only [hmark, List.mem_cons, List.not_mem_nil, or_false] at hmem
  rcases hmem with rfl | rfl | rfl | rfl <;> decide

variable {c : Char} (hc : c.toNat ≤ 0x20)
include hc

theorem ne_of_le {d : Char} (hd : 0x20 < d.toNat) : c ≠ d := by
  rintro rfl
  omega

theorem isForbidden_of_le : isForbidden c = true := by
  rw [isForbidden, decide_eq_true hc]
  rfl

theorem mem_label? {text : List Char} {label : Label} (hlabel : label? text = some label)
    (hmem : c ∈ text) : c ∈ label.text := by
  unfold label? at hlabel
  split at hlabel
  case isTrue hmark =>
    unfold marked? at hlabel
    simp only at hlabel
    split at hlabel
    · cases hlabel
    · split at hlabel
      · cases hlabel
      · rename_i decoded hdecode
        split at hlabel
        · cases hlabel
          obtain ⟨digits, rfl⟩ := List.isPrefixOf_iff_prefix.1 hmark
          rw [List.drop_left] at hdecode
          refine Punycode.mem_of_decode? (digitValue?_of_le hc)
            (ne_of_le hc (by decide)) hdecode ?_
          refine (List.mem_append.1 hmem).resolve_left fun hmem => ?_
          exact absurd (mark_above hmem) (Nat.not_lt.2 hc)
        · cases hlabel
  case isFalse =>
    split at hlabel
    · cases hlabel
      exact hmem
    · split at hlabel
      · cases hlabel
      · cases hlabel
        exact hmem

theorem convert?_of_mem {name : List Char} (hmem : c ∈ name) : convert? name = none := by
  rw [Option.eq_none_iff_forall_ne_some]
  intro result hresult
  unfold convert? at hresult
  obtain ⟨mapped, hmapped, hresult⟩ := Option.bind_eq_some_iff.1 hresult
  obtain ⟨labels, hlabels, hresult⟩ := Option.bind_eq_some_iff.1 hresult
  obtain ⟨hvalid, -⟩ := Option.ite_none_right_eq_some.1 hresult
  obtain ⟨same, hsame, hreplaced⟩ := mem_of_mapM hmapped hmem
  rw [replacement?_of_le hc, Option.some.injEq] at hreplaced
  have hcomposed : c ∈ normalForm mapped.flatten :=
    mem_normalForm hc (List.mem_flatten.2 ⟨same, hsame, by simp [← hreplaced]⟩)
  have hsplit : ['.'].intercalate ((normalForm mapped.flatten).splitOn '.') =
      normalForm mapped.flatten := List.intercalate_splitOn '.'
  rw [← hsplit] at hcomposed
  obtain ⟨part, hpart, hmem⟩ := mem_intercalate hcomposed (ne_of_le hc (by decide))
  obtain ⟨label, hlabel, htext⟩ := mem_of_mapM hlabels hpart
  have hforbidden : label.text.any isForbidden = true :=
    List.any_eq_true.2 ⟨c, mem_label? hc htext hmem, isForbidden_of_le hc⟩
  have hlabel := List.all_eq_true.1 hvalid label hlabel
  rw [Label.isValid, hforbidden] at hlabel
  simp at hlabel

theorem toAscii?_of_mem {name : List Char} (hmem : c ∈ name) :
    toAscii? name = none := by
  have hlower : c ∈ name.map Char.toLower := by
    refine List.mem_map.2 ⟨c, hmem, ?_⟩
    exact dif_neg (of_decide_eq_false (isUpper_of_le hc))
  have hforbidden : (name.map Char.toLower).any isForbidden = true :=
    List.any_eq_true.2 ⟨c, hlower, isForbidden_of_le hc⟩
  unfold toAscii?
  simp only [hforbidden, if_true, convert?_of_mem hc hmem, ite_self]

end Url.Idna

namespace Url.Host

variable {c : Char} (hc : c.toNat ≤ 0x20) {text : List Char} (hmem : c ∈ text)
include hc hmem

theorem asciiName_of_mem : asciiName text = .error .internationalName := by
  have htoNat : (UInt8.ofNat c.toNat).toNat = c.toNat := by
    rw [UInt8.toNat_ofNat']
    omega
  have hle : (UInt8.ofNat c.toNat).toNat ≤ 0x20 := by
    rw [htoNat]
    exact hc
  have hencoded : UInt8.ofNat c.toNat ∈ text.flatMap String.utf8EncodeChar := by
    refine List.mem_flatMap.2 ⟨c, hmem, ?_⟩
    have hone : c.val.toNat ≤ 127 := Nat.le_trans hc (by decide)
    simp only [String.utf8EncodeChar, if_pos hone]
    exact List.mem_singleton_self _
  have hoctet : UInt8.ofNat c.toNat ∈
      Url.decode (text.flatMap String.utf8EncodeChar) := by
    refine Url.mem_decodeAfter (Url.hexValue?_of_le hle) ?_ (by simp) hencoded
    intro hpercent
    rw [hpercent] at hle
    exact absurd hle (by decide)
  unfold asciiName
  cases hdecoded : Text.Utf8.decode?
      (Url.decode (text.flatMap String.utf8EncodeChar)) with
  | none => rfl
  | some name =>
      have hname := Text.Utf8.mem_of_decode? hdecoded (by omega) hoctet
      rw [htoNat, Char.ofNat_toNat] at hname
      simp only [Idna.toAscii?_of_mem hc hname]

end Url.Host
end BearerClient
