import BearerClient.Classify
import BearerClient.Proofs.Json.Decoding
import BearerClient.Proofs.Json.Members

/-!
# What error bodies say

The body of a failed response carries a message and a code at its top level or in an `error`
member.  What is made of it depends on the members of these names alone, wherever they stand and
whatever surrounds them.  The top level is read as such a payload either way, so a top-level
`message` of another type takes the `error` member with it.
-/

namespace BearerClient.ErrorDetails

open Json

variable {depth : Nat} {body input mid rest : Bytes} {members inner : List (String × Value)}

/-! ## Payloads -/

theorem Payload.record_lawful : Payload.record.Lawful :=
  ⟨Decoder.optional_lawful Decoder.text_lawful, Decoder.optional_lawful Decoder.any_lawful, trivial⟩

theorem Payload.decoder_lawful : Payload.decoder.Lawful :=
  Decoder.map_lawful (Record.decoder_lawful Payload.record_lawful) _

/-- The text of a member that may be missing or `null`; nothing if it is of another type. -/
def textIn (members : List (String × Value)) (key : String) : Option (Option String) :=
  match Value.lookup members key with
  | none | some .null => some none
  | some (.string text) => some (some text)
  | some _ => none

/-- A member that may be missing or `null`. -/
def heldIn (members : List (String × Value)) (key : String) : Option Value :=
  match Value.lookup members key with
  | none | some .null => none
  | some value => some value

/-- Of the members that a payload is read off none comes twice, and its `message` is a text, if
anything. -/
def Payload.WellFormed (members : List (String × Value)) : Prop :=
  Distinct (Payload.record.named members) ∧ textIn members "message" ≠ none

theorem given_text_iff {name : String} {text : Option String} :
    Record.Given (.withDefault name Decoder.text.optional none) (Value.lookup members name) text ↔
      textIn members name = some text := by
  unfold textIn
  cases Value.lookup members name with
  | none => exact Iff.rfl
  | some value =>
      cases value with
      | null => exact ⟨fun h => by cases h; rfl, fun h => by cases h; rfl⟩
      | string held => exact ⟨fun h => by cases h; rfl, fun h => by cases h; rfl⟩
      | _ => exact ⟨nofun, nofun⟩

theorem given_any_iff {name : String} {found : Option Value} :
    Record.Given (.withDefault name Decoder.any.optional none) (Value.lookup members name) found ↔
      heldIn members name = found := by
  unfold heldIn
  cases Value.lookup members name with
  | none => exact ⟨fun h => Option.some.inj h, fun h => congrArg some h⟩
  | some value =>
      cases value with
      | _ => exact ⟨fun h => Except.ok.inj h, fun h => congrArg Except.ok h⟩

/-- A payload is its two members, neither of which comes twice, whatever else there is. -/
theorem record_ofMembers_eq_ok_iff {message : Option String} {code : Option Value} :
    Payload.record.ofMembers members = .ok (message, code, ()) ↔
      Distinct (Payload.record.named members) ∧
      textIn members "message" = some message ∧ heldIn members "code" = code := by
  rw [Record.ofMembers_eq_ok_iff (by decide), ← given_text_iff, ← given_any_iff]
  exact and_congr_right fun _ => ⟨fun ⟨hmessage, hcode, _⟩ => ⟨hmessage, hcode⟩,
    fun ⟨hmessage, hcode⟩ => ⟨hmessage, hcode, trivial⟩⟩

/-- An object taken as a payload of its own. -/
theorem Payload.ofValue_object_eq_ok_iff {payload : Payload} :
    Payload.decoder.ofValue (.object members) = .ok payload ↔
      Distinct (Payload.record.named members) ∧
      textIn members "message" = some payload.message ∧ heldIn members "code" = payload.code := by
  change (Payload.record.ofMembers members >>= fun fields => .ok ⟨fields.1, fields.2.1⟩) =
    .ok payload ↔ _
  rw [except_bind_eq_ok]
  constructor
  · rintro ⟨⟨message, code, _⟩, hmembers, hdone⟩
    cases hdone
    exact record_ofMembers_eq_ok_iff.1 hmembers
  · intro hmembers
    exact ⟨(payload.message, payload.code, ()), record_ofMembers_eq_ok_iff.2 hmembers, rfl⟩

/-- An `error` member that is an object is taken as a payload or not at all. -/
theorem Payload.mapM_object_eq_ok_iff {error : Option (Option Payload)} :
    (some (Value.object members)).mapM Payload.decoder.optional.ofValue = .ok error ↔
      ∃ payload, Payload.decoder.ofValue (.object members) = .ok payload ∧
        error = some (some payload) := by
  change ((Payload.decoder.ofValue (.object members)).map some >>= fun held => pure (some held)) =
    .ok error ↔ _
  cases Payload.decoder.ofValue (.object members) with
  | error fault => simp [Except.map, bind, Except.bind]
  | ok payload => simp [Except.map, bind, Except.bind, pure, Except.pure, eq_comm]

/-! ## Envelopes -/

/-- One more member of a body that was read beforehand. -/
def Envelope.take (envelope : Envelope) (member : String × Value) : Except Fault Envelope :=
  if member.1 = "error" then
    match envelope.error with
    | some _ => .error (.duplicateField "error")
    | none => do
      let payload ← Payload.decoder.optional.ofValue member.2
      return { envelope with error := some payload }
  else .ok { envelope with others := envelope.others ++ [member] }

theorem Envelope.member_agrees {key : String} {value : Value} (envelope : Envelope)
    (hcolon : Json.colon input = .ok ((), mid)) (hread : readValue depth mid = .ok (value, rest)) :
    Agrees (Envelope.member depth key envelope input) rest (envelope.take (key, value)) := by
  unfold Envelope.member Envelope.take
  dsimp only
  split
  · cases envelope.error with
    | some held => exact .error rfl
    | none =>
        have hpayload := Decoder.optional_lawful Payload.decoder_lawful
        exact .step hcolon ((hpayload.agrees depth mid value rest hread).bind fun _ _ => .ok rfl)
  · exact .ok (by rw [bind_of_ok hcolon, bind_of_ok hread]; rfl)

theorem Envelope.member_passes {limit : Nat} (hlimit : input.length < limit) (key : String)
    (envelope : Envelope) :
    Passes (Envelope.member depth key envelope) (do colon; skipWithin limit) input := by
  unfold Envelope.member
  split
  · cases envelope.error with
    | some held => exact .of_ok nofun
    | none =>
        have hpayload := Decoder.optional_lawful Payload.decoder_lawful
        exact .afterColon fun rest hrest =>
          (hpayload.passes depth limit rest (Nat.lt_trans hrest hlimit)).map _
  · exact .afterColon fun rest hrest =>
      (readValue_passes depth limit rest (Nat.lt_trans hrest hlimit)).map _

/-- What is made of the members of a body. -/
def Envelope.ofMembers (members : List (String × Value)) : Except Fault Payload := do
  Envelope.payload (← members.foldlM Envelope.take {})

theorem readEnvelope_agrees (hread : readValue (depth + 1) body = .ok (.object members, rest)) :
    Agrees (readEnvelope (depth + 1) body) rest (Envelope.ofMembers members) := by
  cases readValue_eq_ok hread with
  | @object inner tail mid rest members hdepth htail hmembers hclose =>
      cases hdepth
      change Agrees ((Scan.peek >>= _) body) _ _
      rw [peek_bind, htail]
      exact readMembers_agrees
        (fun key envelope input mid value rest _ hcolon hvalue =>
          Envelope.member_agrees envelope hcolon hvalue) {} Envelope.payload hmembers hclose
  | scalar htail hlist hobject hscalar => exact (readScalar_isScalar hscalar).1.elim

theorem readEnvelope_passes {limit : Nat} (hlimit : body.length < limit) :
    Passes (readEnvelope (depth + 1)) (skipWithin limit) body := by
  refine .of_ok fun payload rest hread => ?_
  obtain ⟨head, hhead, hread⟩ := peek_bind_eq_ok hread
  split at hread
  case h_1 =>
    obtain ⟨tail, htail⟩ := List.head?_eq_some_iff.1 hhead
    rw [htail] at hread
    exact finished_skips htail hlimit
      (fun limit key envelope input hbelow => Envelope.member_passes hbelow key envelope) hread
  case h_2 => cases hread

/-! ## Members of an envelope -/

/-- The `error` member is taken, if there is no other, and all others stay as they are. -/
theorem Envelope.foldlM_take_eq_ok_iff {envelope : Envelope} :
    members.foldlM Envelope.take {} = .ok envelope ↔
      Distinct (members.filter fun member => member.1 = "error") ∧
      (Value.lookup members "error").mapM Payload.decoder.optional.ofValue = .ok envelope.error ∧
      envelope.others = members.filter fun member => member.1 ≠ "error" := by
  induction members using List.reverseRecOn generalizing envelope with
  | nil =>
      obtain ⟨error, others⟩ := envelope
      constructor
      · intro hsame
        cases hsame
        exact ⟨List.nodup_nil, rfl, rfl⟩
      · rintro ⟨-, herror, hothers⟩
        cases herror
        cases hothers
        rfl
  | append_singleton members last ih =>
      obtain ⟨key, value⟩ := last
      rw [List.foldlM_append, except_bind_eq_ok, List.filter_append, List.filter_append,
        Value.lookup_append_singleton]
      simp only [ih, List.foldlM_cons, List.foldlM_nil, bind_pure]
      by_cases hkey : key = "error"
      · subst hkey
        have hlookup : Value.lookup (members.filter fun member => member.1 = "error") "error" =
            Value.lookup members "error" :=
          Value.lookup_filter (fun key => key = "error") rfl
        rw [if_pos rfl, List.filter_cons_of_pos (by simp), List.filter_cons_of_neg (by simp),
          List.filter_nil, List.filter_nil, List.append_nil, distinct_append_iff, hlookup]
        constructor
        · rintro ⟨⟨held, others⟩, ⟨hdistinct, herror, hothers⟩, htake⟩
          rw [take, if_pos rfl] at htake
          cases held with
          | some held => cases htake
          | none =>
              obtain ⟨payload, hpayload, hdone⟩ := except_bind_eq_ok.1 htake
              cases hdone
              exact ⟨⟨hdistinct, mapM_eq_ok_none_iff.1 herror⟩,
                except_bind_eq_ok.2 ⟨payload, hpayload, rfl⟩, hothers⟩
        · obtain ⟨error, others⟩ := envelope
          rintro ⟨⟨hdistinct, hnew⟩, herror, hothers⟩
          obtain ⟨payload, hpayload, hdone⟩ := except_bind_eq_ok.1 herror
          cases hdone
          refine ⟨⟨none, others⟩, ⟨hdistinct, mapM_eq_ok_none_iff.2 hnew, hothers⟩, ?_⟩
          rw [take, if_pos rfl]
          exact except_bind_eq_ok.2 ⟨payload, hpayload, rfl⟩
      · rw [if_neg hkey, List.filter_cons_of_neg (by simpa using hkey),
          List.filter_cons_of_pos (by simpa using hkey), List.filter_nil, List.filter_nil,
          List.append_nil]
        constructor
        · rintro ⟨before, ⟨hdistinct, herror, hothers⟩, htake⟩
          rw [take, if_neg hkey] at htake
          cases htake
          exact ⟨hdistinct, herror, congrArg (· ++ [(key, value)]) hothers⟩
        · rintro ⟨hdistinct, herror, hothers⟩
          refine ⟨⟨envelope.error, members.filter fun member => member.1 ≠ "error"⟩,
            ⟨hdistinct, herror, rfl⟩, ?_⟩
          rw [take, if_neg hkey, ← hothers]

/-- The members that a body is read off. -/
def Envelope.named (members : List (String × Value)) : List (String × Value) :=
  members.filter fun member => member.1 ∈ "error" :: Payload.record.names

/-- As for a payload, and nor does the `error` member come twice. -/
def Envelope.WellFormed (members : List (String × Value)) : Prop :=
  Distinct (Envelope.named members) ∧ textIn members "message" ≠ none

theorem Envelope.distinct_named_iff : Distinct (Envelope.named members) ↔
    Distinct (members.filter fun member => member.1 = "error") ∧
      Distinct (Payload.record.named (members.filter fun member => member.1 ≠ "error")) := by
  rw [distinct_iff_filter fun key => key = "error", named, Record.named, List.filter_filter,
    List.filter_filter, List.filter_filter]
  have herror : (fun member : String × Value =>
      decide (member.1 = "error") && decide (member.1 ∈ "error" :: Payload.record.names)) =
        fun member => decide (member.1 = "error") := by
    funext member
    by_cases hkey : member.1 = "error" <;> simp [hkey]
  have hothers : (fun member : String × Value =>
      !decide (member.1 = "error") && decide (member.1 ∈ "error" :: Payload.record.names)) =
        fun member => decide (member.1 ∈ Payload.record.names) && decide (member.1 ≠ "error") := by
    funext member
    by_cases hkey : member.1 = "error" <;> simp [hkey]
  rw [herror, hothers]

/-- What is made of a body: no member comes twice of those that it is read off. -/
theorem Envelope.ofMembers_eq_ok_iff {payload : Payload} :
    Envelope.ofMembers members = .ok payload ↔
      Distinct (Envelope.named members) ∧ ∃ message error,
        textIn members "message" = some message ∧
        (Value.lookup members "error").mapM Payload.decoder.optional.ofValue = .ok error ∧
        payload = (error.getD none).getD ⟨message, heldIn members "code"⟩ := by
  have hothers : ∀ key, key ≠ "error" →
      textIn (members.filter fun member => member.1 ≠ "error") key = textIn members key ∧
      heldIn (members.filter fun member => member.1 ≠ "error") key = heldIn members key := by
    intro key hkey
    have hlookup : Value.lookup (members.filter fun member => member.1 ≠ "error") key =
        Value.lookup members key :=
      Value.lookup_filter (fun key => key ≠ "error") (by simpa using hkey)
    rw [textIn, heldIn, hlookup]
    exact ⟨rfl, rfl⟩
  rw [ofMembers, except_bind_eq_ok, distinct_named_iff]
  simp only [foldlM_take_eq_ok_iff, Envelope.payload, except_bind_eq_ok]
  constructor
  · rintro ⟨⟨error, others⟩, ⟨hdistinct, herror, hsame⟩, ⟨message, code, _⟩, hown, hdone⟩
    cases hsame
    obtain ⟨hnamed, hmessage, hcode⟩ := record_ofMembers_eq_ok_iff.1 hown
    rw [(hothers "message" (by decide)).1] at hmessage
    rw [(hothers "code" (by decide)).2] at hcode
    cases hdone
    exact ⟨⟨hdistinct, hnamed⟩, message, error, hmessage, herror, by rw [hcode]⟩
  · rintro ⟨⟨hdistinct, hnamed⟩, message, error, hmessage, herror, rfl⟩
    refine ⟨⟨error, _⟩, ⟨hdistinct, herror, rfl⟩, (message, heldIn members "code", ()), ?_, rfl⟩
    rw [record_ofMembers_eq_ok_iff]
    exact ⟨hnamed, (hothers "message" (by decide)).1.trans hmessage,
      (hothers "code" (by decide)).2⟩

/-! ## Bodies -/

theorem payloadOf_object (hparse : parse body = .ok (.object members)) :
    payloadOf true body = (Envelope.ofMembers members).toOption.getD {} := by
  obtain ⟨rest, hread, hend⟩ := readAll_eq_ok_iff.1 hparse
  have hagrees : Agrees (readEnvelope maxDepth body) rest (Envelope.ofMembers members) :=
    readEnvelope_agrees hread
  rw [payloadOf, if_pos rfl]
  cases htaken : Envelope.ofMembers members with
  | ok payload =>
      rw [(hagrees.readAll_eq_ok_iff hend).2 htaken]
      rfl
  | error refusal =>
      cases hall : readAll (readEnvelope maxDepth) body with
      | error fault => rfl
      | ok payload =>
          rw [(hagrees.readAll_eq_ok_iff hend).1 hall] at htaken
          cases htaken

/-- A body that cannot even be passed over says nothing. -/
theorem payloadOf_unread {fault : Fault} (hskip : readAll skipValue body = .error fault) :
    payloadOf true body = {} := by
  rw [payloadOf, if_pos rfl]
  cases hall : readAll (readEnvelope maxDepth) body with
  | error fault => rfl
  | ok payload =>
      obtain ⟨rest, hread, hend⟩ := readAll_eq_ok_iff.1 hall
      have hpasses : Passes (readEnvelope maxDepth) (skipWithin (body.length + 1)) body :=
        readEnvelope_passes (Nat.lt_succ_self _)
      have hskipped : readAll skipValue body = .ok () :=
        readAll_eq_ok_iff.2 ⟨rest, hpasses.skips _ _ hread, hend⟩
      rw [hskipped] at hskip
      cases hskip

/-- The details that a message and a code come to. -/
def told (status : UInt16) (message : Option String) (code : Option Value) : ErrorDetails where
  message := (message.filter fun text => !Text.isBlank text).getD (fallbackMessage status)
  code := code.bind codeOf

theorem ofBody_eq_told {status : UInt16} {payload : Payload}
    (hpayload : payloadOf true body = payload) :
    ofBody status true body = told status payload.message payload.code := by
  rw [ofBody, hpayload]
  rfl

theorem heldIn_bind_codeOf (members : List (String × Value)) (key : String) :
    (heldIn members key).bind codeOf = (Value.lookup members key).bind codeOf := by
  unfold heldIn
  cases Value.lookup members key with
  | none => rfl
  | some value => cases value <;> rfl

theorem told_heldIn (status : UInt16) (message : Option String) :
    told status message (heldIn members "code") =
      told status message (Value.lookup members "code") := by
  rw [told, told, heldIn_bind_codeOf]

/-- A top level of another shape leaves nothing of the body. -/
theorem ofBody_of_not_ok {status : UInt16} (hparse : parse body = .ok (.object members))
    (hrefused : ∀ payload, Envelope.ofMembers members ≠ .ok payload) :
    ofBody status true body = ⟨fallbackMessage status, none⟩ := by
  have hempty : payloadOf true body = {} := by
    rw [payloadOf_object hparse]
    cases htaken : Envelope.ofMembers members with
    | ok payload => exact absurd htaken (hrefused payload)
    | error fault => rfl
  exact ofBody_eq_told hempty

theorem ofBody_of_ok {status : UInt16} {payload : Payload}
    (hparse : parse body = .ok (.object members))
    (htaken : Envelope.ofMembers members = .ok payload) :
    ofBody status true body = told status payload.message payload.code := by
  refine ofBody_eq_told ?_
  rw [payloadOf_object hparse, htaken]
  rfl

section Members

variable {status : UInt16} (hparse : parse body = .ok (.object members))
include hparse

/-- Nothing is read beside a top-level `message` that is no text, or where a member comes twice that
is read. -/
theorem ofBody_of_not_wellFormed (hmembers : ¬Envelope.WellFormed members) :
    ofBody status true body = ⟨fallbackMessage status, none⟩ := by
  refine ofBody_of_not_ok hparse fun payload htaken => hmembers ?_
  obtain ⟨hdistinct, message, error, hmessage, -⟩ := Envelope.ofMembers_eq_ok_iff.1 htaken
  exact ⟨hdistinct, Option.ne_none_iff_exists'.2 ⟨message, hmessage⟩⟩

theorem ofBody_of_own (hdistinct : Distinct (Envelope.named members)) {own : Option String}
    (hown : textIn members "message" = some own)
    (herror : Value.lookup members "error" = none ∨ Value.lookup members "error" = some .null) :
    ofBody status true body = told status own (Value.lookup members "code") := by
  rw [← told_heldIn]
  have htaken : Envelope.ofMembers members = .ok ⟨own, heldIn members "code"⟩ := by
    rw [Envelope.ofMembers_eq_ok_iff]
    rcases herror with herror | herror
    · exact ⟨hdistinct, own, none, hown, by rw [herror]; rfl, rfl⟩
    · exact ⟨hdistinct, own, some none, hown, by rw [herror]; rfl, rfl⟩
  exact ofBody_of_ok hparse htaken

variable (herror : Value.lookup members "error" = some (.object inner))
include herror

theorem ofBody_of_error_not_wellFormed (hinner : ¬Payload.WellFormed inner) :
    ofBody status true body = ⟨fallbackMessage status, none⟩ := by
  refine ofBody_of_not_ok hparse fun payload htaken => hinner ?_
  obtain ⟨-, message, error, hmessage, htake, -⟩ := Envelope.ofMembers_eq_ok_iff.1 htaken
  rw [herror] at htake
  obtain ⟨held, hheld, -⟩ := Payload.mapM_object_eq_ok_iff.1 htake
  obtain ⟨hdistinct, htext, -⟩ := Payload.ofValue_object_eq_ok_iff.1 hheld
  exact ⟨hdistinct, Option.ne_none_iff_exists'.2 ⟨held.message, htext⟩⟩

theorem ofBody_of_error (hmembers : Envelope.WellFormed members)
    (hdistinct : Distinct (Payload.record.named inner)) {text : Option String}
    (htext : textIn inner "message" = some text) :
    ofBody status true body = told status text (Value.lookup inner "code") := by
  rw [← told_heldIn]
  obtain ⟨hnamed, hmessage⟩ := hmembers
  obtain ⟨own, hown⟩ := Option.ne_none_iff_exists'.1 hmessage
  have htaken : Envelope.ofMembers members = .ok ⟨text, heldIn inner "code"⟩ := by
    rw [Envelope.ofMembers_eq_ok_iff]
    refine ⟨hnamed, own, some (some ⟨text, heldIn inner "code"⟩), hown, ?_, rfl⟩
    rw [herror]
    exact Payload.mapM_object_eq_ok_iff.2
      ⟨_, Payload.ofValue_object_eq_ok_iff.2 ⟨hdistinct, htext, rfl⟩, rfl⟩
  exact ofBody_of_ok hparse htaken

end Members

/-- What the details of a failed response are read off.  To what an `error` member says, nothing
outside it matters but the type of a top-level `message`. -/
theorem ofBody_members (status : UInt16) (body : Bytes) :
    ofBody status false body = ⟨fallbackMessage status, none⟩ ∧
    (∀ fault, readAll skipValue body = .error fault →
      ofBody status true body = ⟨fallbackMessage status, none⟩) ∧
    ∀ members, parse body = .ok (.object members) → Distinct members →
      (textIn members "message" = none →
        ofBody status true body = ⟨fallbackMessage status, none⟩) ∧
      ∀ own, textIn members "message" = some own →
        (Value.lookup members "error" = none ∨ Value.lookup members "error" = some .null →
          ofBody status true body = told status own (Value.lookup members "code")) ∧
        ∀ inner, Value.lookup members "error" = some (.object inner) → Distinct inner →
          (textIn inner "message" = none →
            ofBody status true body = ⟨fallbackMessage status, none⟩) ∧
          ∀ text, textIn inner "message" = some text →
            ofBody status true body = told status text (Value.lookup inner "code") := by
  refine ⟨rfl, fun fault hskip => ofBody_eq_told (payloadOf_unread hskip),
    fun members hparse hdistinct => ⟨fun hother => ?_, fun own hown => ⟨fun herror => ?_,
      fun inner herror hinner => ⟨fun hother => ?_, fun text htext => ?_⟩⟩⟩⟩
  · exact ofBody_of_not_wellFormed hparse fun hmembers => hmembers.2 hother
  · exact ofBody_of_own hparse (hdistinct.filter _) hown herror
  · exact ofBody_of_error_not_wellFormed hparse herror fun hinner => hinner.2 hother
  · have hmembers : Envelope.WellFormed members :=
      ⟨hdistinct.filter _, Option.ne_none_iff_exists'.2 ⟨own, hown⟩⟩
    exact ofBody_of_error hparse herror hmembers (hinner.filter _) htext

theorem ofBody_members_shapes :
    ofBody 500 true
      (Text.utf8 "\x7b\"error\": \x7b\"message\":\"boom\",\"code\":\" 17\"\x7d, \"at\":[1]\x7d") =
        ⟨"boom", some 17⟩ ∧
    ofBody 404 true (Text.utf8 "\x7b\"code\":3,\"error\":null,\"message\":\" \"\x7d") =
      ⟨"HttpResponse code 404", some 3⟩ ∧
    ofBody 400 true (Text.utf8 "\x7b\"error\":\x7b\"message\":[],\"code\":1\x7d\x7d") =
      ⟨"HttpResponse code 400", none⟩ ∧
    ofBody 400 true (Text.utf8 "\x7b\"message\":true,\"code\":1\x7d") =
      ⟨"HttpResponse code 400", none⟩ ∧
    ofBody 400 true (Text.utf8 "not json at all") = ⟨"HttpResponse code 400", none⟩ := by
  refine ⟨?_, ?_, ?_, ?_, ?_⟩
  · have hparse : parse (Text.utf8
        "\x7b\"error\": \x7b\"message\":\"boom\",\"code\":\" 17\"\x7d, \"at\":[1]\x7d") =
        .ok (.object [("error", .object [("message", .string "boom"), ("code", .string " 17")]),
          ("at", .array [.int 1])]) := by
      decide +kernel
    have hmembers := ((ofBody_members 500 _).2.2 _ hparse (by decide)).2 none rfl
    rw [(hmembers.2 _ rfl (by decide)).2 (some "boom") rfl]
    decide +kernel
  · have hparse : parse (Text.utf8 "\x7b\"code\":3,\"error\":null,\"message\":\" \"\x7d") =
        .ok (.object [("code", .int 3), ("error", .null), ("message", .string " ")]) := by
      decide +kernel
    have hmembers := ((ofBody_members 404 _).2.2 _ hparse (by decide)).2 (some " ") rfl
    rw [hmembers.1 (.inr rfl)]
    decide +kernel
  · have hparse : parse (Text.utf8 "\x7b\"error\":\x7b\"message\":[],\"code\":1\x7d\x7d") =
        .ok (.object [("error", .object [("message", .array []), ("code", .int 1)])]) := by
      decide +kernel
    have hmembers := ((ofBody_members 400 _).2.2 _ hparse (by decide)).2 none rfl
    exact (hmembers.2 _ rfl (by decide)).1 rfl
  · have hparse : parse (Text.utf8 "\x7b\"message\":true,\"code\":1\x7d") =
        .ok (.object [("message", .bool true), ("code", .int 1)]) := by
      decide +kernel
    exact ((ofBody_members 400 _).2.2 _ hparse (by decide)).1 rfl
  · have hskip : readAll skipValue (Text.utf8 "not json at all") = .error .expectedIdent := by
      decide +kernel
    exact (ofBody_members 400 _).2.1 _ hskip

/-- An `error` member that says what it has to say, beside a top-level `message` that is no text:
nothing of it is read. -/
theorem ofBody_message_beside :
    ∃ members inner,
      parse (Text.utf8 "\x7b\"error\":\x7b\"message\":\"boom\",\"code\":17\x7d,\"message\":5\x7d") =
        .ok (.object members) ∧ Distinct members ∧
      Value.lookup members "error" = some (.object inner) ∧ Distinct inner ∧
      textIn inner "message" = some (some "boom") ∧
      ofBody 500 true
        (Text.utf8 "\x7b\"error\":\x7b\"message\":\"boom\",\"code\":17\x7d,\"message\":5\x7d") ≠
        told 500 (some "boom") (Value.lookup inner "code") := by
  refine ⟨[("error", .object [("message", .string "boom"), ("code", .int 17)]),
    ("message", .int 5)], [("message", .string "boom"), ("code", .int 17)], by decide +kernel,
    by decide, rfl, by decide, rfl, ?_⟩
  decide +kernel

end BearerClient.ErrorDetails
