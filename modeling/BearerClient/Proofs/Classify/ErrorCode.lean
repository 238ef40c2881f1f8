import BearerClient.Proofs.Classify.ErrorBody
import BearerClient.Proofs.Json.Form

/-!
# Codes as numbers and as texts

The code of an error body is a number or the text of one, and it makes no difference which.  The two
take different ways: the number is read as a number of 64 bits with or without a sign, or else in
floating point, or is refused with the whole body; of the text the digits are counted up to the
limits.  Both come to the same code, and to none beyond the limits.  That holds in any body,
whatever its layout and its other members.
-/

namespace BearerClient

/-! ## Integers in texts -/

namespace Text

open Json

/-- The digits of an integer, with or without white space around them. -/
def PaddedInteger (text : String) (n : Int) : Prop :=
  ∃ before after, text.toList = before ++ Write.integer n ++ after ∧
    (∀ c ∈ before, isBlankChar c = true) ∧ ∀ c ∈ after, isBlankChar c = true

theorem isBlankChar_of_mem_integer {n : Int} {c : Char} (hc : c ∈ Write.integer n) :
    isBlankChar c = false := by
  have hdigit (hmem : c ∈ Nat.toDigits 10 n.natAbs) : isBlankChar c = false :=
    isBlankChar_of_isDigit ((denotes_toDigits n.natAbs).isDigit c hmem)
  unfold Write.integer at hc
  split at hc
  · rcases List.mem_cons.1 hc with rfl | hmem
    · decide
    · exact hdigit hmem
  · exact hdigit hc

theorem PaddedInteger.trim_eq {text : String} {n : Int} (hpadded : PaddedInteger text n) :
    (trim text).toList = Write.integer n := by
  obtain ⟨before, after, htext, hbefore, hafter⟩ := hpadded
  rw [trim, String.toList_ofList, htext]
  exact trimBy_surrounded hbefore (fun c hc => isBlankChar_of_mem_integer hc) hafter

/-- The digits of a number are read unless the number is beyond the limit. -/
theorem readMagnitude_toDigits (limit : Nat) (beyond : IntegerFault) (n : Nat) :
    (readMagnitude limit beyond (Nat.toDigits 10 n)).toOption =
      if n ≤ limit then some n else none := by
  split
  case isTrue hle =>
    rw [readMagnitude_eq_ok_iff.2 ⟨denotes_toDigits n, hle⟩]
    rfl
  case isFalse hbeyond =>
    cases hread : readMagnitude limit beyond (Nat.toDigits 10 n) with
    | error fault => rfl
    | ok value =>
        obtain ⟨hdenotes, hle⟩ := readMagnitude_eq_ok_iff.1 hread
        have hvalue : n = value := (denotes_toDigits n).value.symm.trans hdenotes.value
        exact absurd (hvalue ▸ hle) hbeyond

/-- An integer is read unless it is beyond the limits. -/
theorem readInt64_integer {text : String} {n : Int} (htext : text.toList = Write.integer n) :
    (readInt64 text).toOption = if minInt64 ≤ n ∧ n ≤ maxInt64 then some n else none := by
  unfold readInt64 readInteger
  unfold Write.integer at htext
  split at htext
  case isTrue hnegative =>
    rw [htext]
    have hminus (read : Except IntegerFault Nat) :
        (Except.map (fun n : Int => -n) (do return (← read : Nat))).toOption =
          read.toOption.map fun n : Nat => -(n : Int) := by
      cases read <;> rfl
    refine (hminus (readMagnitude minInt64.natAbs .tooSmall (Nat.toDigits 10 n.natAbs))).trans ?_
    rw [readMagnitude_toDigits]
    unfold minInt64 maxInt64
    split
    · rw [if_pos (by omega), Option.map_some]
      congr 1
      omega
    · rw [if_neg (by omega), Option.map_none]
  case isFalse hnatural =>
    have hdigits := (denotes_toDigits n.natAbs).isDigit
    rw [← htext] at hdigits
    split
    case h_1 hempty => exact absurd (htext.symm.trans hempty) Nat.toDigits_ne_nil
    case h_2 digits hsign => exact absurd (hdigits '+' (by simp [hsign])) (by decide)
    case h_3 digits hsign => exact absurd (hdigits '-' (by simp [hsign])) (by decide)
    case h_4 =>
      have hplain (read : Except IntegerFault Nat) :
          (read.map Int.ofNat).toOption = read.toOption.map Int.ofNat := by
        cases read <;> rfl
      rw [hplain, htext, readMagnitude_toDigits]
      unfold minInt64 maxInt64
      split
      · rw [if_pos (by omega), Option.map_some]
        congr 1
        exact Int.natAbs_of_nonneg (by omega)
      · rw [if_neg (by omega), Option.map_none]

end Text

namespace ErrorDetails

open Json Json.Scan

/-- The code that an integer stands for. -/
def codeFor (n : Int) : Option Int64 :=
  if Text.minInt64 ≤ n ∧ n ≤ Text.maxInt64 then some (Int64.ofInt n) else none

theorem codeFor_toInt (n : Int) : (codeFor n).map Int64.toInt =
    if -9223372036854775808 ≤ n ∧ n ≤ 9223372036854775807 then some n else none := by
  change (if -9223372036854775808 ≤ n ∧ n ≤ 9223372036854775807 then some (Int64.ofInt n)
    else none).map Int64.toInt = _
  split
  case isTrue hfits =>
    rw [Option.map_some, Int64.toInt_ofInt_of_le hfits.1 (by omega)]
  case isFalse => rfl

theorem codeOf_text {text : String} {n : Int} (hpadded : Text.PaddedInteger text n) :
    codeOf (.string text) = codeFor n := by
  have hread := Text.readInt64_integer hpadded.trim_eq
  have hcode : codeOf (.string text) =
      (Text.readInt64 (Text.trim text)).toOption.map Int64.ofInt := by
    rw [codeOf]
    cases Text.readInt64 (Text.trim text) <;> rfl
  rw [hcode, hread, codeFor]
  split <;> rfl

/-- An integer that is not read as one is beyond the limits either way. -/
theorem codeOf_number (n : Int) :
    ((NumberParts.value (n < 0) ⟨decimal n.natAbs, none, none⟩).map Value.number).toOption.bind
      codeOf = codeFor n := by
  by_cases hexact : (Number.int n).Exact
  · rw [value_integer hexact]
    rfl
  · have hbeyond : ¬(Text.minInt64 ≤ n ∧ n ≤ Text.maxInt64) := by
      unfold Number.Exact at hexact
      unfold Text.minInt64 Text.maxInt64
      omega
    rw [codeFor, if_neg hbeyond]
    cases hread : NumberParts.value (n < 0) ⟨decimal n.natAbs, none, none⟩ with
    | error fault => rfl
    | ok number =>
        cases number with
        | float bits => rfl
        | int i => exact absurd hread (value_integer_ne_int hexact i)

/-! ## Bodies with a place for the code -/

variable {depth : Nat} {octets rest : Bytes} {value : Value} {status : UInt16} {fault : Fault}

/-- An error body in which the place of its code is open: at the top level, where no `error` member
says anything, or inside one.  Of the levels that are read at most, 126 are left inside the body and
125 inside its `error` member. -/
inductive CodeFrame where
  | flat (form : Form 126 "code") (herror : Value.lookup (form.members .null) "error" = none ∨
      Value.lookup (form.members .null) "error" = some .null)
  | nested (outer : Form 126 "error") (inner : Form 125 "code")

namespace CodeFrame

/-- The body with these octets for its code. -/
def body (octets : Bytes) : CodeFrame → Bytes
  | flat form _ => form.fill octets
  | nested outer inner => outer.fill (inner.fill octets)

/-- Something is read of the body at all. -/
def WellFormed : CodeFrame → Prop
  | flat form _ => Envelope.WellFormed (form.members .null)
  | nested outer inner =>
    Envelope.WellFormed (outer.members .null) ∧ Payload.WellFormed (inner.members .null)

end CodeFrame

/-! ### Codes that are values -/

/-- Of a body that is well formed this code is read, and otherwise none. -/
def Tells (status : UInt16) (body : Bytes) (wellFormed : Prop) (code : Option Int64) : Prop :=
  (wellFormed → (ofBody status true body).code = code) ∧
    (¬wellFormed → (ofBody status true body).code = none)

theorem textIn_members {key : String} (form : Form depth key) (hkey : key ≠ "message")
    (value other : Value) :
    textIn (form.members value) "message" = textIn (form.members other) "message" := by
  rw [textIn, textIn, form.lookup_other hkey.symm]

theorem Envelope.wellFormed_members {key : String} (form : Form depth key) (hkey : key ≠ "message")
    (value other : Value) :
    Envelope.WellFormed (form.members value) ↔ Envelope.WellFormed (form.members other) := by
  rw [Envelope.WellFormed, Envelope.WellFormed, textIn_members form hkey value other]
  exact and_congr_left'
    (form.distinct_filter (fun key => key ∈ "error" :: Payload.record.names) value other)

theorem Payload.wellFormed_members {key : String} (form : Form depth key) (hkey : key ≠ "message")
    (value other : Value) :
    Payload.WellFormed (form.members value) ↔ Payload.WellFormed (form.members other) := by
  rw [Payload.WellFormed, Payload.WellFormed, textIn_members form hkey value other]
  exact and_congr_left'
    (form.distinct_filter (fun key => key ∈ Payload.record.names) value other)

theorem flat_tells {form : Form 126 "code"}
    (herror : Value.lookup (form.members .null) "error" = none ∨
      Value.lookup (form.members .null) "error" = some .null)
    (hholds : Holds 126 octets (.ok value)) :
    Tells status (form.fill octets) (Envelope.WellFormed (form.members .null)) (codeOf value) := by
  have hparse := (form.fill_holds hholds).parse
  rw [Envelope.wellFormed_members form (by decide) .null value]
  rw [form.lookup_other (by decide) .null value] at herror
  constructor
  · rintro ⟨hdistinct, hmessage⟩
    obtain ⟨own, hown⟩ := Option.ne_none_iff_exists'.1 hmessage
    rw [ofBody_of_own hparse hdistinct hown herror,
      form.lookup_key (fun key => key ∈ "error" :: Payload.record.names) (by decide) hdistinct]
    rfl
  · intro hmembers
    rw [ofBody_of_not_wellFormed hparse hmembers]

theorem nested_tells {outer : Form 126 "error"} {inner : Form 125 "code"}
    (hholds : Holds 125 octets (.ok value)) :
    Tells status (outer.fill (inner.fill octets))
      (Envelope.WellFormed (outer.members .null) ∧ Payload.WellFormed (inner.members .null))
      (codeOf value) := by
  have hparse := (outer.fill_holds (inner.fill_holds hholds)).parse
  rw [Envelope.wellFormed_members outer (by decide) .null (.object (inner.members value)),
    Payload.wellFormed_members inner (by decide) .null value]
  by_cases hmembers : Envelope.WellFormed (outer.members (.object (inner.members value)))
  · have herror :=
      outer.lookup_key (fun key => key ∈ "error" :: Payload.record.names) (by decide) hmembers.1
    constructor
    · rintro ⟨-, hdistinct, hmessage⟩
      obtain ⟨text, htext⟩ := Option.ne_none_iff_exists'.1 hmessage
      rw [ofBody_of_error hparse herror hmembers hdistinct htext,
        inner.lookup_key (fun key => key ∈ Payload.record.names) (by decide) hdistinct]
      rfl
    · intro hboth
      rw [ofBody_of_error_not_wellFormed hparse herror fun hinner => hboth ⟨hmembers, hinner⟩]
  · refine ⟨fun hboth => absurd hboth.1 hmembers, fun _ => ?_⟩
    rw [ofBody_of_not_wellFormed hparse hmembers]

/-! ### Codes that cannot be read -/

/-- A value that cannot be read is not read as one that may be `null`, either. -/
theorem any_optional_fails {input : Bytes} (hread : readValue depth input = .error fault) :
    ∃ fault, Decoder.any.optional.read depth input = .error fault := by
  cases hoptional : Decoder.any.optional.read depth input with
  | error other => exact ⟨other, rfl⟩
  | ok result =>
      obtain ⟨head, hhead, htaken⟩ := peek_bind_eq_ok hoptional
      -- Where the first letter of `null` stands, both go on to the same scalar.
      split at htaken
      case h_1 =>
        obtain ⟨held, mid, hscalar, -⟩ := bind_eq_ok.1 htaken
        rw [readValue_eq, readValueOver, peek_bind, hhead] at hread
        cases hscalar.symm.trans hread
      case h_2 =>
        obtain ⟨held, mid, hheld, -⟩ := bind_eq_ok.1 htaken
        rw [← readValue_trimmed] at hread
        cases hheld.symm.trans hread

theorem envelope_takes : Takes depth (Envelope.member depth) Envelope.take :=
  fun _ _ envelope _ _ _ hcolon hread => Envelope.member_agrees envelope hcolon hread

theorem payload_takes : Takes depth (Payload.record.readMember depth) Payload.record.takeMember :=
  fun key value slots _ _ _ hcolon hread =>
    Record.readMember_agrees (Payload.record_lawful.agreesAt key value) slots hcolon hread

/-- An `error` member fails with its code. -/
theorem payload_fails (form : Form depth "code") (hholds : Holds depth octets (.error fault))
    (rest : Bytes) : ∃ fault,
      Payload.decoder.optional.read (depth + 1) (form.fill octets ++ rest) = .error fault := by
  have hplace : Does (Payload.record.readMember depth) ⟨form.head, octets⟩
      fun _ => .error .invalidType := by
    refine ⟨"code", form.heads, fun slots input rest hseparates hcolon => ?_⟩
    obtain ⟨after, hafter, hread⟩ := hholds.readValue hseparates
    refine ⟨after, hafter, ?_⟩
    obtain ⟨fault, hfails⟩ := any_optional_fails hread
    -- A second `code` is refused before its value is looked at.
    obtain ⟨message, _ | code, _⟩ := slots
    · exact .error (bind_of_error (bind_of_error ((bind_of_ok hcolon).trans hfails)))
    · exact .error rfl
  obtain ⟨fault, hfails⟩ := form.readMembers_fails payload_takes hplace (form.trail ++ rest)
    Payload.record.noSlots
  refine ⟨fault, ?_⟩
  change (peek >>= _) _ = _
  rw [peek_bind, form.trimmed_fill]
  refine bind_of_error (bind_of_error ?_)
  change (peek >>= _) _ = _
  rw [peek_bind]
  exact (bind_of_ok rfl).trans (bind_of_error hfails)

/-- A body fails with the member of it that is open. -/
theorem envelope_fails {key : String} (form : Form depth key)
    (hplace : Does (Envelope.member depth) ⟨form.head, octets⟩ fun _ => .error .invalidType) :
    ∃ fault, readEnvelope (depth + 1) (form.fill octets) = .error fault := by
  obtain ⟨fault, hfails⟩ := form.readMembers_fails envelope_takes hplace form.trail {}
  refine ⟨fault, ?_⟩
  have hopens := form.trimmed_fill octets []
  rw [List.append_nil, List.append_nil] at hopens
  change (peek >>= _) _ = _
  rw [peek_bind, hopens]
  exact (drop_bind _ _ _).trans (bind_of_error hfails)

theorem code_of_fails {body : Bytes} (hfails : ∃ fault, readEnvelope maxDepth body = .error fault) :
    (ofBody status true body).code = none := by
  obtain ⟨fault, hfails⟩ := hfails
  have hempty : payloadOf true body = {} := by
    rw [payloadOf, if_pos rfl]
    cases hall : readAll (readEnvelope maxDepth) body with
    | error other => rfl
    | ok payload =>
        obtain ⟨rest, hread, -⟩ := readAll_eq_ok_iff.1 hall
        cases hread.symm.trans hfails
  rw [ofBody_eq_told hempty]
  rfl

theorem flat_unread {form : Form 126 "code"} (hholds : Holds 126 octets (.error fault)) :
    (ofBody status true (form.fill octets)).code = none := by
  refine code_of_fails (envelope_fails form ?_)
  refine ⟨"code", form.heads, fun envelope input rest hseparates hcolon => ?_⟩
  obtain ⟨after, hafter, hread⟩ := hholds.readValue hseparates
  have hfails : Envelope.member 126 "code" envelope input = .error fault := by
    rw [Envelope.member, if_neg (by decide), bind_of_ok hcolon]
    exact bind_of_error hread
  exact ⟨after, hafter, .error hfails⟩

theorem nested_unread {outer : Form 126 "error"} {inner : Form 125 "code"}
    (hholds : Holds 125 octets (.error fault)) :
    (ofBody status true (outer.fill (inner.fill octets))).code = none := by
  refine code_of_fails (envelope_fails outer ?_)
  refine ⟨"error", outer.heads, fun envelope input rest hseparates hcolon => ?_⟩
  refine ⟨rest, hseparates.trimmed_eq, ?_⟩
  rw [Envelope.member, if_pos rfl]
  cases envelope.error with
  | some payload => exact .error rfl
  | none =>
      obtain ⟨fault, hfails⟩ := payload_fails inner hholds rest
      exact .error ((bind_of_ok hcolon).trans (bind_of_error hfails))

/-! ### Numbers and texts -/

/-- What stands in the place of the code comes to this code, unless nothing is read at all. -/
theorem CodeFrame.tells (frame : CodeFrame) {taken : Except Fault Value}
    (hholds : ∀ depth, Holds depth octets taken) :
    Tells status (frame.body octets) frame.WellFormed (taken.toOption.bind codeOf) := by
  cases taken with
  | ok value =>
      cases frame with
      | flat form herror => exact flat_tells herror (hholds 126)
      | nested outer inner => exact nested_tells (hholds 125)
  | error fault =>
      have hnone : (ofBody status true (frame.body octets)).code = none := by
        cases frame with
        | flat form herror => exact flat_unread (hholds 126)
        | nested outer inner => exact nested_unread (hholds 125)
      exact ⟨fun _ => hnone, fun _ => hnone⟩

/-- These octets are this number as it is written, with or without white space around it. -/
def IsNumber (octets : Bytes) (n : Int) : Prop :=
  ∃ lead trail, octets = lead ++ (Value.int n).octets ++ trail ∧ IsGap lead ∧ IsGap trail

/-- These octets are a string in which there is this number and perhaps white space. -/
def IsText (octets : Bytes) (n : Int) : Prop :=
  ∃ lead quoted trail text, octets = lead ++ 0x22 :: quoted ++ trail ∧ IsGap lead ∧ IsGap trail ∧
    Spelling quoted text ∧ Text.PaddedInteger text n

theorem number_tells (frame : CodeFrame) {n : Int} (hnumber : IsNumber octets n) :
    Tells status (frame.body octets) frame.WellFormed (codeFor n) := by
  obtain ⟨lead, trail, rfl, hlead, htrail⟩ := hnumber
  rw [← codeOf_number]
  exact frame.tells fun depth => (integer_holds n).surrounded hlead htrail

theorem text_tells (frame : CodeFrame) {n : Int} (htext : IsText octets n) :
    Tells status (frame.body octets) frame.WellFormed (codeFor n) := by
  obtain ⟨lead, quoted, trail, text, rfl, hlead, htrail, hspelling, hpadded⟩ := htext
  rw [← codeOf_text hpadded]
  exact frame.tells fun depth => (string_holds hspelling).surrounded hlead htrail

/-- A code is the same as a number and as a text: the integer within the limits of 64 bits with a
sign, and none beyond. -/
theorem code_reads_alike (status : UInt16) (frame : CodeFrame) {n : Int} {number text : Bytes}
    (hnumber : IsNumber number n) (htext : IsText text n) :
    (ofBody status true (frame.body number)).code = (ofBody status true (frame.body text)).code ∧
    (frame.WellFormed → (ofBody status true (frame.body number)).code.map Int64.toInt =
      if -9223372036854775808 ≤ n ∧ n ≤ 9223372036854775807 then some n else none) ∧
    (¬frame.WellFormed → (ofBody status true (frame.body number)).code = none) := by
  have hfirst : Tells status (frame.body number) frame.WellFormed (codeFor n) :=
    number_tells frame hnumber
  have hsecond : Tells status (frame.body text) frame.WellFormed (codeFor n) :=
    text_tells frame htext
  refine ⟨?_, fun hwell => ?_, hfirst.2⟩
  · by_cases hwell : frame.WellFormed
    · rw [hfirst.1 hwell, hsecond.1 hwell]
    · rw [hfirst.2 hwell, hsecond.2 hwell]
  · rw [hfirst.1 hwell, codeFor_toInt]

/-! ### Bodies that are written -/

theorem isNumber_written (n : Int) : IsNumber (Value.int n).octets n :=
  ⟨[], [], by rw [List.nil_append, List.append_nil], isGap_nil, isGap_nil⟩

theorem isText_written {text : String} {n : Int} (hpadded : Text.PaddedInteger text n) :
    IsText (Value.string text).octets n := by
  obtain ⟨quoted, hquoted, hspelling⟩ := string_spelling text
  exact ⟨[], quoted, [], text, (octets_eq _).trans (hquoted.trans (List.append_nil _).symm),
    isGap_nil, isGap_nil, hspelling, hpadded⟩

/-- A code and nothing else. -/
def CodeFrame.bare : CodeFrame :=
  .flat
    { before := []
      head := encoded (Write.string "code") ++ [0x3A]
      after := []
      heads := heads_written "code" }
    (.inl rfl)

/-- A message and a code in an `error` member. -/
def CodeFrame.wrapped (message : String) : CodeFrame :=
  .nested
    { before := []
      head := encoded (Write.string "error") ++ [0x3A]
      after := []
      heads := heads_written "error" }
    { before := [.written "message" (.string message) (Value.string_fits message)]
      head := encoded (Write.string "code") ++ [0x3A]
      after := []
      heads := heads_written "code" }

theorem CodeFrame.bare_wellFormed : CodeFrame.bare.WellFormed := ⟨by decide, nofun⟩

theorem CodeFrame.wrapped_wellFormed (message : String) : (CodeFrame.wrapped message).WellFormed :=
  ⟨⟨by decide, nofun⟩, (by decide : ["message", "code"].Nodup), nofun⟩

theorem code_reads_alike_limits :
    (ofBody 500 true (Text.utf8 "\x7b\"code\":9223372036854775808\x7d")).code = none ∧
    (ofBody 500 true (Text.utf8 "\x7b\"code\":\"9223372036854775808\"\x7d")).code = none ∧
    (ofBody 500 true (Text.utf8
      "\x7b\"error\":\x7b\"message\":\"boom\",\"code\":\"\\t-9223372036854775808 \"\x7d\x7d"
      )).code = some Int64.minValue := by
  have habove : Text.PaddedInteger "9223372036854775808" 9223372036854775808 :=
    ⟨[], [], by decide +kernel, nofun, nofun⟩
  have hbelow : Text.PaddedInteger "\t-9223372036854775808 " (-9223372036854775808) :=
    ⟨['\t'], [' '], by decide +kernel, List.forall_mem_singleton.2 (by decide),
      List.forall_mem_singleton.2 (by decide)⟩
  have hbare := code_reads_alike 500 .bare (isNumber_written _) (isText_written habove)
  have hwrapped := code_reads_alike 500 (.wrapped "boom") (isNumber_written _)
    (isText_written hbelow)
  have hnumber : CodeFrame.bare.body (Value.int 9223372036854775808).octets =
      Text.utf8 "\x7b\"code\":9223372036854775808\x7d" := by
    decide +kernel
  have htext : CodeFrame.bare.body (Value.string "9223372036854775808").octets =
      Text.utf8 "\x7b\"code\":\"9223372036854775808\"\x7d" := by
    decide +kernel
  have hnested : (CodeFrame.wrapped "boom").body (Value.string "\t-9223372036854775808 ").octets =
      Text.utf8
        "\x7b\"error\":\x7b\"message\":\"boom\",\"code\":\"\\t-9223372036854775808 \"\x7d\x7d" := by
    decide +kernel
  have hnone := Option.map_eq_none_iff.1 (hbare.2.1 CodeFrame.bare_wellFormed)
  obtain ⟨code, hcode, hvalue⟩ :=
    Option.map_eq_some_iff.1 (hwrapped.2.1 (CodeFrame.wrapped_wellFormed "boom"))
  rw [← hnumber, ← htext, ← hnested, ← hbare.1, ← hwrapped.1, hcode]
  exact ⟨hnone, hnone, congrArg some (Int64.toInt_inj.1 hvalue)⟩

end ErrorDetails
end BearerClient
