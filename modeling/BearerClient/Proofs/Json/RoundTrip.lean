import BearerClient.Proofs.Json.Layout

/-!
# Written values are read back

The text of a value is read back as the value, members in their order, if it nests no deeper than
is read and all of its numbers are integers that 64 bits hold.  So what a decoder reads from the
text of such a value is what it takes from the value.
-/

namespace BearerClient.Json

open Scan

variable {α β : Type} {depth bound : Nat} {rest tail : Bytes} {value : Value}

/-! ## What is read back -/

/-- Integers from -2^63 to 2^64 - 1. -/
def Number.Exact : Number → Prop
  | .int n => -9223372036854775808 ≤ n ∧ n ≤ 18446744073709551615
  | .float _ => False

/-- Values of at most `depth` levels with exact numbers. -/
def Value.Fits : (depth : Nat) → Value → Prop
  | 0, .array _ | 0, .object _ => False
  | depth + 1, .array items => ∀ item ∈ items, item.Fits depth
  | depth + 1, .object members => ∀ member ∈ members, member.2.Fits depth
  | _, .number n => n.Exact
  | _, _ => True

/-- A reader takes exactly these characters, unless they are a number that goes on. -/
def ReadsBack (reader : Reader α) (chars : List Char) (a : α) : Prop :=
  ∀ rest, NumberEnds rest → reader (encoded chars ++ rest) = .ok (a, rest)

/-! ## Names -/

theorem expectOctets_append (expected rest : Bytes) :
    expectOctets expected (expected ++ rest) = .ok ((), rest) := by
  induction expected with
  | nil => rfl
  | cons e expected ih => exact (if_pos rfl).trans ih

/-! ## Scalars -/

theorem readValue_scalar {b : UInt8} (hspace : isSpace b = false) (hlist : b ≠ 0x5B)
    (hobject : b ≠ 0x7B) : readValue depth (b :: tail) = readScalar b (b :: tail) := by
  have htrimmed : trimmed (b :: tail) = b :: tail := by simp [trimmed, hspace]
  rw [readValue_eq, readValueOver, peek_bind, htrimmed]
  simp

theorem isDigit_iff {b : UInt8} : isDigit b = true ↔ 0x30 ≤ b.toNat ∧ b.toNat ≤ 0x39 := by
  simp [isDigit, UInt8.le_iff_toNat_le]

/-- An octet that is no digit. -/
theorem isSpace_of_isDigit {b : UInt8} (hb : isDigit b = true) : isSpace b = false := by
  have hother : ∀ c, isDigit c = false → b ≠ c := fun c => ne_of_isDigit hb
  simp only [isSpace, Bool.or_eq_false_iff, decide_eq_false_iff_not]
  exact ⟨⟨⟨hother _ (by decide), hother _ (by decide)⟩, hother _ (by decide)⟩,
    hother _ (by decide)⟩

/-- All digits of an integer are read as one number, whatever its size. -/
theorem readValue_integer (n : Int) (hends : NumberEnds rest) :
    readValue depth (encoded (Write.integer n) ++ rest) =
      (NumberParts.value (n < 0) ⟨decimal n.natAbs, none, none⟩).map (.number ·, rest) := by
  have hread (negative : Bool) {input : Bytes} {taken : Except Fault Number}
      (hnumber : number negative input = taken.map (·, rest)) :
      (number negative >>= fun number => pure (Value.number number)) input =
        taken.map (.number ·, rest) := by
    cases taken with
    | error fault => exact bind_of_error hnumber
    | ok number => exact bind_of_ok hnumber
  unfold Write.integer
  split
  case isTrue hnegative =>
    rw [encoded_cons_ascii (by decide), encoded_toDigits, decide_eq_true hnegative]
    change readValue depth (0x2D :: (decimal n.natAbs ++ rest)) = _
    rw [readValue_scalar (by decide) (by decide) (by decide)]
    exact hread true (number_digits true n.natAbs hends)
  case isFalse hnatural =>
    rw [encoded_toDigits, decide_eq_false hnatural]
    have hnumber := number_digits false n.natAbs hends
    obtain ⟨b, tail, hdecimal⟩ := List.exists_cons_of_ne_nil (decimal_ne_nil n.natAbs)
    have hb : isDigit b = true :=
      isDigit_of_mem_decimal (by rw [hdecimal]; exact List.mem_cons_self)
    have hother : ∀ c, isDigit c = false → b ≠ c := fun c => ne_of_isDigit hb
    rw [hdecimal] at hnumber ⊢
    rw [List.cons_append,
      readValue_scalar (isSpace_of_isDigit hb) (hother _ (by decide)) (hother _ (by decide)),
      readScalar, if_neg (hother _ (by decide)), if_neg (hother _ (by decide)),
      if_neg (hother _ (by decide)), if_neg (hother _ (by decide)), if_pos hb]
    exact hread false hnumber

theorem value_integer {n : Int} (hexact : (Number.int n).Exact) :
    NumberParts.value (n < 0) ⟨decimal n.natAbs, none, none⟩ = .ok (.int n) := by
  unfold Number.Exact at hexact
  rw [value_decimal _ (by omega), integerOf]
  congr 1
  split
  case isTrue hnegative =>
    have hnegative : n < 0 := of_decide_eq_true hnegative
    rw [if_neg (by omega)]
    congr 1
    omega
  case isFalse hnatural =>
    have hnatural : ¬n < 0 := mt decide_eq_true hnatural
    congr 1
    omega

/-- An integer that is not exact is in floating point, or too large even for that. -/
theorem value_integer_ne_int {n : Int} (hexact : ¬(Number.int n).Exact) (i : Int) :
    NumberParts.value (n < 0) ⟨decimal n.natAbs, none, none⟩ ≠ .ok (.int i) := by
  unfold Number.Exact at hexact
  by_cases hfits : n.natAbs < 18446744073709551616
  · have hbelow : n < 0 ∧ 9223372036854775808 < n.natAbs := by omega
    rw [value_decimal _ hfits, integerOf, if_pos (decide_eq_true hbelow.1),
      if_pos (.inr hbelow.2)]
    intro hsame
    cases hsame
  · exact value_decimal_ne_int _ (by omega) i

theorem readValue_number {n : Int} (hexact : (Number.int n).Exact) :
    ReadsBack (readValue depth) (Write.integer n) (.number (.int n)) := by
  intro rest hends
  rw [readValue_integer n hends, value_integer hexact]
  rfl

theorem readValue_quoted {quoted : Bytes} {text : String} (hspelling : Spelling quoted text)
    (rest : Bytes) :
    readValue depth (0x22 :: quoted ++ rest) = .ok (.string text, rest) := by
  rw [List.cons_append, readValue_scalar (by decide) (by decide) (by decide)]
  change (stringBody >>= fun text => pure (Value.string text)) _ = _
  exact bind_of_ok (hspelling rest)

theorem readValue_string (text : String) :
    ReadsBack (readValue depth) (Write.string text) (.string text) := by
  intro rest _
  obtain ⟨quoted, hquoted, hspelling⟩ := string_spelling text
  rw [hquoted]
  exact readValue_quoted hspelling rest

/-- One of the three literal names, by its first letter. -/
theorem readValue_name {b : UInt8} {chars : List Char} (name : List Char)
    (hchars : encoded chars = b :: encoded name)
    (hstart : isSpace b = false ∧ b ≠ 0x5B ∧ b ≠ 0x7B)
    (hscalar : readScalar b = (do drop; finishName b; return value))
    (hname : finishName b = expectOctets (ascii (String.ofList name))) :
    ReadsBack (readValue depth) chars value := by
  intro rest _
  have hread : finishName b (encoded name ++ rest) = .ok ((), rest) := by
    rw [hname, ascii, utf8_ofList]
    exact expectOctets_append _ rest
  rw [hchars, List.cons_append, readValue_scalar hstart.1 hstart.2.1 hstart.2.2, hscalar, drop_bind]
  exact bind_of_ok hread

/-- A value that holds no others is read back. -/
theorem readValue_isScalar (hscalar : value.IsScalar) (hfits : value.Fits depth) :
    ReadsBack (readValue depth) value.chars value := by
  cases value with
  | array items => exact hscalar.elim
  | object members => exact hscalar.elim
  | string text =>
      rw [Value.chars]
      exact readValue_string text
  | number n =>
      cases n with
      | float bits => cases depth <;> exact hfits.elim
      | int n =>
          rw [Value.chars]
          refine readValue_number ?_
          cases depth <;> exact hfits
  | null =>
      rw [Value.chars]
      exact readValue_name (b := 0x6E) ['u', 'l', 'l'] rfl (by decide) rfl rfl
  | bool b =>
      cases b with
      | true =>
          rw [Value.chars]
          exact readValue_name (b := 0x74) ['r', 'u', 'e'] rfl (by decide) rfl rfl
      | false =>
          rw [Value.chars]
          exact readValue_name (b := 0x66) ['a', 'l', 's', 'e'] rfl (by decide) rfl rfl

/-! ## Lists -/

section Parts

variable {write : α → List Char} {items : List α} {a : α}

/-- All parts but the first stand behind a comma. -/
theorem separated_cons (write : α → List Char) (a : α) (items : List α) :
    Write.separated ((a :: items).map write) =
      write a ++ items.flatMap fun item => ',' :: write item := by
  induction items generalizing a with
  | nil => simp [Write.separated]
  | cons next items ih =>
      rw [List.map_cons, List.map_cons, Write.separated, ← List.map_cons, ih, List.flatMap_cons]
      · rfl
      · exact nofun

theorem length_le_later (write : α → List Char) (items : List α) :
    items.length ≤ (encoded (items.flatMap fun item => ',' :: write item)).length := by
  induction items with
  | nil => exact Nat.le_refl _
  | cons a items ih =>
      rw [List.flatMap_cons, List.cons_append, encoded_cons_ascii (by decide), encoded_append]
      simp only [List.length_cons, List.length_append]
      omega

theorem numberEnds_cons {b : UInt8}
    (hb : isDigit b = false ∧ b ≠ 0x2E ∧ b ≠ 0x65 ∧ b ≠ 0x45) (rest : Bytes) :
    NumberEnds (b :: rest) := by
  intro c hc
  cases hc
  exact hb

/-- Behind a part there is a comma or the closing octet. -/
theorem numberEnds_later {b : UInt8} (hb : isDigit b = false ∧ b ≠ 0x2E ∧ b ≠ 0x65 ∧ b ≠ 0x45)
    (write : α → List Char) (items : List α) (rest : Bytes) :
    NumberEnds (encoded (items.flatMap fun item => ',' :: write item) ++ b :: rest) := by
  cases items with
  | nil => exact numberEnds_cons hb rest
  | cons a items =>
      rw [List.flatMap_cons, List.cons_append, encoded_cons_ascii (by decide)]
      exact numberEnds_cons (by decide) _

/-- What an item of a list starts with. -/
def OpensItem (chars : List Char) : Prop :=
  ∃ b tail, encoded chars = b :: tail ∧ isSpace b = false ∧ b ≠ 0x5D

theorem anotherItem_first {b : UInt8} (hspace : isSpace b = false) (hclose : b ≠ 0x5D) :
    anotherItem true (b :: tail) = .ok (true, b :: tail) := by
  have htrimmed : trimmed (b :: tail) = b :: tail := by simp [trimmed, hspace]
  rw [anotherItem, peek_bind, htrimmed]
  simp only [List.head?_cons]
  rfl

theorem anotherItem_later {b : UInt8} (hspace : isSpace b = false) (hclose : b ≠ 0x5D) :
    anotherItem false (0x2C :: b :: tail) = .ok (true, b :: tail) := by
  have htrimmed : trimmed (b :: tail) = b :: tail := by simp [trimmed, hspace]
  have hcomma : trimmed (0x2C :: b :: tail) = 0x2C :: b :: tail := rfl
  rw [anotherItem, peek_bind, hcomma]
  change (drop >>= _) _ = _
  rw [drop_bind, peek_bind, htrimmed]
  simp only [List.head?_cons]
  rfl

theorem readItemsWithin_later {item : Reader α}
    (hitems : ∀ a ∈ items, OpensItem (write a) ∧ ReadsBack item (write a) a)
    (hbound : items.length < bound) (rest : Bytes) :
    readItemsWithin item bound false
      (encoded (items.flatMap fun a => ',' :: write a) ++ 0x5D :: rest) =
      .ok (items, 0x5D :: rest) := by
  induction items generalizing bound with
  | nil =>
      obtain ⟨bound, rfl⟩ : ∃ smaller, bound = smaller + 1 := ⟨bound - 1, by omega⟩
      rfl
  | cons a items ih =>
      rw [List.length_cons] at hbound
      rw [List.forall_mem_cons] at hitems
      obtain ⟨bound, rfl⟩ : ∃ smaller, bound = smaller + 1 := ⟨bound - 1, by omega⟩
      obtain ⟨⟨⟨b, tail, hstart, hspace, hclose⟩, hread⟩, hitems⟩ := hitems
      have hitem := hread _ (numberEnds_later (b := 0x5D) (by decide) write items rest)
      rw [List.flatMap_cons, List.cons_append, encoded_cons_ascii (by decide), encoded_append,
        List.cons_append, List.append_assoc]
      rw [hstart, List.cons_append] at hitem ⊢
      refine (bind_of_ok (anotherItem_later hspace hclose)).trans ?_
      refine (bind_of_ok hitem).trans ?_
      exact bind_of_ok (ih hitems (by omega))

/-- A list is read back if each of its items is. -/
theorem readItems_written {item : Reader α}
    (hitems : ∀ a ∈ items, OpensItem (write a) ∧ ReadsBack item (write a) a) (rest : Bytes) :
    readItems item (encoded (Write.separated (items.map write)) ++ 0x5D :: rest) =
      .ok (items, rest) := by
  have hwithin : readItemsWithin item
      ((encoded (Write.separated (items.map write)) ++ 0x5D :: rest).length + 1) true
      (encoded (Write.separated (items.map write)) ++ 0x5D :: rest) =
      .ok (items, 0x5D :: rest) := by
    cases items with
    | nil => rfl
    | cons a items =>
        rw [List.forall_mem_cons] at hitems
        obtain ⟨⟨⟨b, tail, hstart, hspace, hclose⟩, hread⟩, hitems⟩ := hitems
        have hitem := hread _ (numberEnds_later (b := 0x5D) (by decide) write items rest)
        have hlength := length_le_later write items
        rw [separated_cons, encoded_append, List.append_assoc]
        generalize hinput : encoded (write a) ++ (_ ++ 0x5D :: rest) = input
        have hbound : items.length < input.length := by
          rw [← hinput, List.length_append, List.length_append, List.length_cons]
          omega
        rw [hstart, List.cons_append] at hitem hinput
        subst hinput
        refine (bind_of_ok (anotherItem_first hspace hclose)).trans ?_
        refine (bind_of_ok hitem).trans ?_
        exact bind_of_ok (readItemsWithin_later hitems hbound rest)
  exact (bind_of_ok (remaining_eq_ok _)).trans (bind_of_ok hwithin)

end Parts

/-! ## Objects -/

/-- A member as it is written. -/
def writeMember (member : String × Value) : List Char :=
  Write.string member.1 ++ ':' :: member.2.chars

/-- The place of a member that is written, and that the member is kept. -/
def writtenStep (member : String × Value) :
    Place × (List (String × Value) → Except Fault (List (String × Value))) :=
  (⟨encoded (Write.string member.1) ++ [0x3A], encoded member.2.chars⟩,
    fun members => .ok (member :: members))

theorem text_writtenStep (member : String × Value) :
    (writtenStep member).1.text = encoded (writeMember member) := by
  rw [writeMember, encoded_append, encoded_cons_ascii (by decide)]
  exact List.append_assoc ..

theorem writtenStep_does {item : Reader Value} {member : String × Value}
    (hvalue : ReadsBack item member.2.chars member.2) :
    Does (collect item) (writtenStep member).1 (writtenStep member).2 := by
  refine ⟨member.1, heads_written member.1, fun members input rest hseparates hcolon => ?_⟩
  have hread := hvalue rest hseparates.numberEnds
  exact ⟨rest, hseparates.trimmed_eq, .ok ((bind_of_ok hcolon).trans (bind_of_ok hread))⟩

theorem placesText_written (members : List (String × Value)) :
    placesText (members.map fun member => (writtenStep member).1) =
      encoded (Write.separated (members.map writeMember)) := by
  cases members with
  | nil => rfl
  | cons member members =>
      rw [separated_cons, encoded_append, List.map_cons, placesText, text_writtenStep]
      congr 1
      induction members with
      | nil => rfl
      | cons next members ih =>
          rw [List.map_cons, List.flatMap_cons, List.flatMap_cons, text_writtenStep, ih,
            List.cons_append, List.cons_append, encoded_cons_ascii (by decide), encoded_append]
          rfl

/-- Members that are kept one after another, the latest first. -/
theorem foldlM_collect (members held : List (String × Value)) :
    members.foldlM (fun members member => .ok (member :: members)) held =
      (.ok (members.reverse ++ held) : Except Fault _) := by
  induction members generalizing held with
  | nil => rfl
  | cons member members ih =>
      rw [List.foldlM_cons, List.reverse_cons, List.append_assoc]
      exact ih (member :: held)

/-- The members of an object are read back, the last one first, if each of their values is. -/
theorem readMembers_written {item : Reader Value} {members : List (String × Value)}
    (hmembers : ∀ member ∈ members, ReadsBack item member.2.chars member.2) (rest : Bytes) :
    readMembers (collect item) []
      (encoded (Write.separated (members.map writeMember)) ++ 0x7D :: rest) =
      .ok (members.reverse, 0x7D :: rest) := by
  have hsteps : ∀ step ∈ members.map writtenStep, Does (collect item) step.1 step.2 :=
    List.forall_mem_map.2 fun member hmember => writtenStep_does (hmembers member hmember)
  have hloop := readMembers_does hsteps rest []
  rw [List.map_map, List.foldlM_map] at hloop
  change Agrees (readMembers (collect item) []
      (placesText (members.map fun member => (writtenStep member).1) ++ 0x7D :: rest))
    (0x7D :: rest) (members.foldlM (fun members member => .ok (member :: members)) []) at hloop
  rw [placesText_written, foldlM_collect, List.append_nil] at hloop
  cases hloop with
  | ok hread => exact hread

/-! ## Values -/

theorem itemChars_eq (items : List Value) : Value.itemChars items = items.map Value.chars := by
  induction items with
  | nil => rfl
  | cons item items ih =>
      rw [Value.itemChars, ih]
      rfl

theorem memberChars_eq (members : List (String × Value)) :
    Value.memberChars members = members.map writeMember := by
  induction members with
  | nil => rfl
  | cons member members ih =>
      rw [Value.memberChars, ih]
      rfl

theorem encoded_array (items : List Value) (rest : Bytes) :
    encoded (Value.array items).chars ++ rest =
      0x5B :: (encoded (Write.separated (items.map Value.chars)) ++ 0x5D :: rest) := by
  rw [Value.chars, itemChars_eq, List.cons_append, encoded_cons_ascii (by decide), encoded_append,
    List.cons_append, List.append_assoc]
  rfl

theorem encoded_object (members : List (String × Value)) (rest : Bytes) :
    encoded (Value.object members).chars ++ rest =
      0x7B :: (encoded (Write.separated (members.map writeMember)) ++ 0x7D :: rest) := by
  rw [Value.chars, memberChars_eq, List.cons_append, encoded_cons_ascii (by decide), encoded_append,
    List.cons_append, List.append_assoc]
  rfl

/-- No value starts with white space or with the end of a list. -/
theorem chars_opens (value : Value) (hfits : value.Fits depth) : OpensItem value.chars := by
  cases value with
  | null => exact ⟨_, _, rfl, by decide, by decide⟩
  | bool b => cases b <;> exact ⟨_, _, rfl, by decide, by decide⟩
  | string text =>
      rw [Value.chars]
      exact ⟨_, _, encoded_string text, by decide, by decide⟩
  | array items =>
      have harray := encoded_array items []
      rw [List.append_nil] at harray
      exact ⟨_, _, harray, by decide, by decide⟩
  | object members =>
      have hobject := encoded_object members []
      rw [List.append_nil] at hobject
      exact ⟨_, _, hobject, by decide, by decide⟩
  | number n =>
      cases n with
      | float bits => cases depth <;> exact hfits.elim
      | int n =>
          rw [Value.chars]
          change OpensItem (Write.integer n)
          unfold Write.integer
          split
          · rw [OpensItem, encoded_cons_ascii (by decide)]
            exact ⟨_, _, rfl, by decide, by decide⟩
          · obtain ⟨b, tail, hdecimal⟩ := List.exists_cons_of_ne_nil (decimal_ne_nil n.natAbs)
            have hb : isDigit b = true :=
              isDigit_of_mem_decimal (by rw [hdecimal]; exact List.mem_cons_self)
            rw [OpensItem, encoded_toDigits]
            exact ⟨b, tail, hdecimal, isSpace_of_isDigit hb, ne_of_isDigit hb (by decide)⟩

theorem readValue_array (input : Bytes) : readValue (depth + 1) (0x5B :: input) =
    (do return .array (← readItems (readValue depth)) : Reader Value) input := rfl

theorem readValue_object (input : Bytes) : readValue (depth + 1) (0x7B :: input) =
    (do
      let members ← readMembers (collect (readValue depth)) []
      closeObject
      return .object members.reverse : Reader Value) input := rfl

/-- A value is read back from its text, whatever follows. -/
theorem readValue_chars (value : Value) (hfits : value.Fits depth) :
    ReadsBack (readValue depth) value.chars value := by
  induction depth generalizing value with
  | zero =>
      cases value with
      | array items => exact hfits.elim
      | object members => exact hfits.elim
      | _ => exact readValue_isScalar trivial hfits
  | succ depth ih =>
      cases value with
      | array items =>
          intro rest _
          have hitems : ∀ item ∈ items, OpensItem item.chars ∧
              ReadsBack (readValue depth) item.chars item := fun item hitem =>
            ⟨chars_opens item (hfits item hitem), ih item (hfits item hitem)⟩
          rw [encoded_array, readValue_array]
          exact bind_of_ok (readItems_written hitems rest)
      | object members =>
          intro rest _
          have hmembers : ∀ member ∈ members,
              ReadsBack (readValue depth) member.2.chars member.2 :=
            fun member hmember => ih member.2 (hfits member hmember)
          have hclose : closeObject (0x7D :: rest) = .ok ((), rest) := rfl
          rw [encoded_object, readValue_object]
          refine (bind_of_ok (readMembers_written hmembers rest)).trans ?_
          refine (bind_of_ok hclose).trans ?_
          rw [List.reverse_reverse]
          rfl
      | _ => exact readValue_isScalar trivial hfits

theorem octets_eq (value : Value) : value.octets = encoded value.chars := utf8_ofList _

theorem readValue_octets (hfits : value.Fits depth) :
    readValue depth value.octets = .ok (value, []) := by
  have hread := readValue_chars value hfits [] nofun
  rwa [List.append_nil, ← octets_eq] at hread

/-- The text of a value is the text of nothing else. -/
theorem parse_octets (hfits : value.Fits maxDepth) : parse value.octets = .ok value :=
  readAll_eq_ok_iff.2 ⟨[], readValue_octets hfits, rfl⟩

/-- A decoder reads from the text of a value what it takes from the value. -/
theorem Decoder.Lawful.run_octets {decoder : Decoder α} (hdecoder : decoder.Lawful)
    (hfits : value.Fits maxDepth) {a : α} :
    decoder.run value.octets = .ok a ↔ decoder.ofValue value = .ok a :=
  (hdecoder.agrees _ _ _ _ (readValue_octets hfits)).readAll_eq_ok_iff rfl

/-! ## Members that are written -/

namespace Value

@[simp] theorem string_fits (text : String) : (Value.string text).Fits depth := by
  cases depth <;> trivial

theorem int_fits {n : Int} (hexact : (Number.int n).Exact) : (Value.int n).Fits depth := by
  cases depth <;> exact hexact

@[simp] theorem object_fits_iff {members : List (String × Value)} :
    (Value.object members).Fits (depth + 1) ↔ ∀ member ∈ members, member.2.Fits depth := Iff.rfl

/-- What may be missing is written as `null` then. -/
@[simp] theorem optional_fits {write : α → Value} (hwrite : ∀ a, (write a).Fits depth)
    (found : Option α) : ((found.map write).getD .null).Fits depth := by
  cases found with
  | none => cases depth <;> trivial
  | some a => exact hwrite a

end Value

namespace Decoder

theorem optional_ofValue {decoder : Decoder β} {write : α → Value} {f : α → β}
    (htake : ∀ a, decoder.ofValue (write a) = .ok (f a)) (hnull : ∀ a, write a ≠ .null)
    (found : Option α) :
    decoder.optional.ofValue ((found.map write).getD .null) = .ok (found.map f) := by
  cases found with
  | none => rfl
  | some a =>
      have hsome : decoder.optional.ofValue (write a) = (decoder.ofValue (write a)).map some := by
        cases hvalue : write a with
        | null => exact absurd hvalue (hnull a)
        | _ => rfl
      change decoder.optional.ofValue (write a) = _
      rw [hsome, htake]
      rfl

theorem optionalText_ofValue (found : Option String) :
    text.optional.ofValue ((found.map .string).getD .null) = .ok found := by
  cases found <;> rfl

end Decoder

end BearerClient.Json
