import BearerClient.Failure.Codec
import BearerClient.Proofs.Json.Fields
import BearerClient.Proofs.Json.RoundTrip
import BearerClient.Proofs.Json.Tagged

/-!
# Failures written and read back

Each case has a name of its own, and from the detail that is written for a case its own decoder
takes the fields back, up to the limits of their types.  So a failure is read back from its text,
and from every other text with its members, in whichever order they stand.
-/

namespace BearerClient

open Json

/-! ## Faults of the transport -/

namespace TransportFault

theorem Kind.ofValue_name (kind : Kind) : decoder.ofValue (.string kind.name) = .ok kind := by
  cases kind <;> rfl

theorem ofValue_toJson (fault : TransportFault) : decoder.ofValue fault.toJson = .ok fault := by
  have hmembers : record.ofMembers [("kind", .string fault.kind.name),
      ("message", .string fault.message)] = .ok (fault.kind, fault.message, ()) :=
    Record.ofMembers_written (by decide) rfl ⟨fault.kind.ofValue_name, rfl, trivial⟩
  have hrecord : record.decoder.ofValue fault.toJson = .ok (fault.kind, fault.message, ()) :=
    hmembers
  exact Decoder.map_ofValue hrecord _

/-- All members are strings, where names are read alike as well. -/
theorem decoder_agreesAt (fault : TransportFault) : decoder.AgreesAt fault.toJson := by
  have hstring : ∀ key text, record.AgreesAt key (.string text) := fun key text =>
    ⟨fun _ => Decoder.oneOf_agreesAt _ text, fun _ => Decoder.text_lawful.agreesAt _, trivial⟩
  refine Decoder.map_agreesAt (Record.decoder_agreesAt (fun items hitems => ?_)
    fun members hmembers member hmember => ?_) _
  · cases hitems
  · cases hmembers
    simp only [List.mem_cons, List.not_mem_nil, or_false] at hmember
    rcases hmember with rfl | rfl <;> exact hstring _ _

@[simp] theorem toJson_fits (fault : TransportFault) {depth : Nat} :
    fault.toJson.Fits (depth + 1) := by
  simp [toJson]

end TransportFault

/-! ## Details -/

namespace Failure

variable {depth : Nat} {failure : Failure} {detail : Value}

@[simp] theorem orNull_eq {α : Type} (write : α → Value) (found : Option α) :
    orNull write found = (found.map write).getD .null := by
  cases found <;> rfl

@[simp] theorem statusJson_fits (status : UInt16) : (statusJson status).Fits depth := by
  have hlt := status.toNat_lt
  refine Value.int_fits ?_
  unfold Number.Exact
  omega

@[simp] theorem codeJson_fits (code : Int64) : (codeJson code).Fits depth := by
  have hle := code.le_toInt
  have hlt := code.toInt_lt
  refine Value.int_fits ?_
  unfold Number.Exact
  omega

theorem detail_fits (hdetail : failure.detail = some detail) : detail.Fits (depth + 2) := by
  cases failure <;> cases hdetail <;> simp

theorem status_ofValue (status : UInt16) :
    statusDecoder.ofValue (statusJson status) = .ok status := by
  have hread := Decoder.map_ofValue (Decoder.natural_ofValue status.toNat_lt) UInt16.ofNat
  rwa [UInt16.ofNat_toNat] at hread

theorem code_ofValue (code : Int64) : codeDecoder.ofValue (codeJson code) = .ok code := by
  have hint : Decoder.int64.ofValue (codeJson code) = .ok code.toInt := by
    have hle := code.le_toInt
    have hlt := code.toInt_lt
    exact if_pos (by omega)
  have hread := Decoder.map_ofValue hint Int64.ofInt
  rwa [Int64.ofInt_toInt] at hread

theorem optionalStatus_ofValue (status : Option UInt16) :
    statusDecoder.optional.ofValue (orNull statusJson status) = .ok status := by
  have hread := Decoder.optional_ofValue (f := id) status_ofValue (fun _ => nofun) status
  rwa [Option.map_id_apply, ← orNull_eq] at hread

theorem optionalCode_ofValue (code : Option Int64) :
    codeDecoder.optional.ofValue (orNull codeJson code) = .ok code := by
  have hread := Decoder.optional_ofValue (f := id) code_ofValue (fun _ => nofun) code
  rwa [Option.map_id_apply, ← orNull_eq] at hread

theorem optionalText_ofValue (text : Option String) :
    Decoder.text.optional.ofValue (orNull .string text) = .ok text := by
  rw [orNull_eq]
  exact Decoder.optionalText_ofValue text

/-- The decoder of a case takes back what is written for it. -/
theorem ofValue_detail (hdetail : failure.detail = some detail) :
    (detailDecoder failure.case).ofValue detail = .ok failure := by
  cases failure with
  | unauthorized message code =>
      cases hdetail
      refine Decoder.map_ofValue (a := (message, code, ())) ?_ _
      exact Record.ofMembers_written (by decide) rfl ⟨rfl, optionalCode_ofValue code, trivial⟩
  | authentication status message code =>
      cases hdetail
      refine Decoder.map_ofValue (a := (status, message, code, ())) ?_ _
      exact Record.ofMembers_written (by decide) rfl
        ⟨optionalStatus_ofValue status, rfl, optionalCode_ofValue code, trivial⟩
  | http status message code body =>
      cases hdetail
      refine Decoder.map_ofValue (a := (status, message, code, body, ())) ?_ _
      exact Record.ofMembers_written (by decide) rfl
        ⟨status_ofValue status, rfl, optionalCode_ofValue code, optionalText_ofValue body, trivial⟩
  | transport status source =>
      cases hdetail
      refine Decoder.map_ofValue (a := (status, source, ())) ?_ _
      exact Record.ofMembers_written (by decide) rfl
        ⟨optionalStatus_ofValue status, source.ofValue_toJson, trivial⟩
  | retryNeeded status =>
      cases hdetail
      refine Decoder.map_ofValue (a := (status, ())) ?_ _
      exact Record.ofMembers_written (by decide) rfl ⟨status_ofValue status, trivial⟩
  | decode status message =>
      cases hdetail
      refine Decoder.map_ofValue (a := (status, message, ())) ?_ _
      exact Record.ofMembers_written (by decide) rfl ⟨status_ofValue status, rfl, trivial⟩
  | invalidRequest message =>
      cases hdetail
      rfl
  | config message =>
      cases hdetail
      rfl
  | cancelled => cases hdetail

theorem case_ofValue (case : Case) : shape.tag.ofValue (.string case.name) = .ok case := by
  cases case <;> rfl

/-! ## Reading details -/

theorem statusDecoder_lawful : statusDecoder.Lawful :=
  Decoder.map_lawful (Decoder.natural_lawful 16) _

theorem codeDecoder_lawful : codeDecoder.Lawful :=
  Decoder.map_lawful (Decoder.integer_lawful _ _) _

theorem optionalStatus_lawful : statusDecoder.optional.Lawful :=
  Decoder.optional_lawful statusDecoder_lawful

theorem optionalCode_lawful : codeDecoder.optional.Lawful :=
  Decoder.optional_lawful codeDecoder_lawful

theorem source_of_detail {members : List (String × Value)} {value : Value}
    (hdetail : failure.detail = some (.object members)) (hsource : ("source", value) ∈ members) :
    ∃ fault : TransportFault, value = fault.toJson := by
  cases failure <;> cases hdetail <;> simp at hsource
  exact ⟨_, hsource⟩

/-- What is written for one case is read alike by the decoder of every case. -/
theorem detailDecoder_agreesAt (hdetail : failure.detail = some detail) (case : Case) :
    (detailDecoder case).AgreesAt detail := by
  have hfields : ∀ {β} {record : Record β}, record.Lawful → record.objectDecoder.AgreesAt detail :=
    fun hrecord => Record.objectDecoder_agreesAt fun _ _ member _ =>
      hrecord.agreesAt member.1 member.2
  have htext : Decoder.text.Lawful := Decoder.text_lawful
  cases case with
  | unauthorized =>
      refine Decoder.map_agreesAt (hfields ?_) _
      exact ⟨htext, optionalCode_lawful, trivial⟩
  | authentication =>
      refine Decoder.map_agreesAt (hfields ?_) _
      exact ⟨optionalStatus_lawful, htext, optionalCode_lawful, trivial⟩
  | http =>
      refine Decoder.map_agreesAt (hfields ?_) _
      exact ⟨statusDecoder_lawful, htext, optionalCode_lawful, Decoder.optional_lawful htext,
        trivial⟩
  | transport =>
      refine Decoder.map_agreesAt (Record.objectDecoder_agreesAt ?_) _
      rintro members rfl ⟨key, value⟩ hmember
      refine ⟨fun _ => optionalStatus_lawful.agreesAt value, ?_, trivial⟩
      rintro rfl
      obtain ⟨fault, rfl⟩ := source_of_detail hdetail hmember
      exact fault.decoder_agreesAt
  | retryNeeded =>
      refine Decoder.map_agreesAt (hfields ?_) _
      exact ⟨statusDecoder_lawful, trivial⟩
  | decode =>
      refine Decoder.map_agreesAt (hfields ?_) _
      exact ⟨statusDecoder_lawful, htext, trivial⟩
  | invalidRequest => exact Decoder.map_agreesAt (htext.agreesAt detail) _
  | config => exact Decoder.map_agreesAt (htext.agreesAt detail) _
  | cancelled =>
      refine Decoder.map_agreesAt ?_ _
      exact (Decoder.scalar_lawful (fun _ => ⟨_, rfl⟩) fun _ => ⟨_, rfl⟩).agreesAt detail

/-! ## Failures -/

/-- The members of a failure as they are written. -/
def members (failure : Failure) : List (String × Value) :=
  ("type", .string failure.case.name) ::
    match failure.detail with
    | some detail => [("detail", detail)]
    | none => []

theorem toJson_eq (failure : Failure) : failure.toJson = .object failure.members := rfl

theorem members_distinct (failure : Failure) : Distinct failure.members := by
  unfold members Distinct
  split <;> simp

theorem members_fit (failure : Failure) :
    ∀ member ∈ failure.members, member.2.Fits (depth + 2) := by
  unfold members
  split
  · simpa using detail_fits ‹_›
  · simp

theorem members_agree (failure : Failure) :
    ∀ member ∈ failure.members, shape.AgreesAt member.1 member.2 := by
  have htype : shape.AgreesAt "type" (.string failure.case.name) :=
    ⟨fun _ => Decoder.oneOf_agreesAt _ _, fun hname => absurd hname (by decide)⟩
  unfold members
  split
  case h_1 detail hdetail =>
    have hcontent : shape.AgreesAt "detail" detail :=
      ⟨fun hname => absurd hname (by decide), fun _ => detailDecoder_agreesAt hdetail⟩
    simp [htype, hcontent]
  case h_2 => simp [htype]

theorem lookup_detail (failure : Failure) :
    Value.lookup failure.members "detail" = failure.detail := by
  unfold members
  split
  case h_1 detail hdetail =>
    rw [hdetail]
    rfl
  case h_2 hdetail =>
    rw [hdetail]
    rfl

/-- In whichever order its members stand, they make the failure. -/
theorem ofMembers_perm {members : List (String × Value)} (hperm : members.Perm failure.members) :
    shape.ofMembers members = .ok failure := by
  have hdistinct := failure.members_distinct
  refine (Tagged.ofMembers_eq_ok_iff (by decide) (hdistinct.perm hperm)).2
    ⟨.string failure.case.name, failure.case, ?_, case_ofValue _, ?_⟩
  · exact (hdistinct.perm hperm).lookup_eq_some_iff.2 (hperm.mem_iff.2 List.mem_cons_self)
  · rw [hdistinct.lookup_perm hperm]
    change shape.Makes failure.case failure (Value.lookup failure.members "detail")
    rw [lookup_detail]
    cases hdetail : failure.detail with
    | some detail => exact ofValue_detail hdetail
    | none =>
        cases failure <;> cases hdetail
        rfl

theorem ofJson_perm {members : List (String × Value)} {text : Bytes}
    (hperm : members.Perm failure.members) (hparse : parse text = .ok (.object members)) :
    ofJson text = .ok failure := by
  have hshape : ∀ member ∈ members, shape.AgreesAt member.1 member.2 := fun member hmember =>
    failure.members_agree member (hperm.mem_iff.1 hmember)
  exact (Tagged.readAll_eq_ok_iff hshape hparse).2 (ofMembers_perm hperm)

theorem ofJson_octets {members : List (String × Value)} (hperm : members.Perm failure.members) :
    ofJson (Value.object members).octets = .ok failure := by
  refine ofJson_perm hperm (parse_octets ?_)
  exact fun member hmember => failure.members_fit member (hperm.mem_iff.1 hmember)

/-- A failure is read back from its text, from the text with its tag and its detail in the other
order, and from whatever other text has just its members.  So different failures have different
texts. -/
theorem ofJson_anyOrder :
    (∀ failure : Failure, ofJson failure.toJson.octets = .ok failure) ∧
    (∀ failure : Failure, ofJson (Value.object failure.members.reverse).octets = .ok failure) ∧
    (∀ (failure : Failure) text members, parse text = .ok (.object members) →
      members.Perm failure.members → ofJson text = .ok failure) ∧
    Function.Injective fun failure : Failure => failure.toJson.text := by
  have hback : ∀ failure : Failure, ofJson failure.toJson.octets = .ok failure := by
    intro failure
    rw [toJson_eq]
    exact ofJson_octets (List.Perm.refl failure.members)
  refine ⟨hback, fun failure => ofJson_octets (List.reverse_perm _),
    fun failure text members hparse hperm => ofJson_perm hperm hparse, fun first second hsame => ?_⟩
  have hoctets : first.toJson.octets = second.toJson.octets := congrArg Text.utf8 hsame
  have hread := hback first
  rw [hoctets, hback second] at hread
  exact (Except.ok.inj hread).symm

end Failure
end BearerClient
