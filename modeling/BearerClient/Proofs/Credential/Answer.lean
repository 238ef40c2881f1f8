import BearerClient.Credential.Answer
import BearerClient.Proofs.Json.Fields
import BearerClient.Proofs.Json.RoundTrip

/-!
# Token answers written and read back

The expiry of a token is written in whole milliseconds, rounded towards the past, also before the
epoch.  The range of instants starts and ends so that rounding never leaves it.  A number of
milliseconds is an expiry exactly if it lies in that range, and then it is written again as it was
read; any other number refuses the answer, and never stands for no expiry.
-/

namespace BearerClient

open Json

/-! ## Whole milliseconds -/

namespace Instant

/-- The last whole millisecond that is not after the instant. -/
def wholeMillis (t : Instant) : Instant where
  nanos := t.nanos / 1000000 * 1000000
  min_le := by
    have hle := t.min_le
    unfold minNanos at *
    omega
  le_max := by
    have hle := t.le_max
    omega

theorem nanos_wholeMillis (t : Instant) :
    t.wholeMillis.nanos = t.nanos / 1000000 * 1000000 := rfl

example : (clamp (-1)).wholeMillis.millis = -1 := by decide

theorem wholeMillis_le (t : Instant) : t.wholeMillis ≤ t := by
  rw [le_iff, nanos_wholeMillis]
  omega

theorem lt_wholeMillis (t : Instant) : t.nanos < t.wholeMillis.nanos + 1000000 := by
  rw [nanos_wholeMillis]
  omega

theorem wholeMillis_eq {t : Instant} (hwhole : 1000000 ∣ t.nanos) : t.wholeMillis = t := by
  refine ext ?_
  rw [nanos_wholeMillis]
  omega

theorem ofMillis?_eq_some_iff {millis : Int} {t : Instant} :
    ofMillis? millis = some t ↔ t.nanos = millis * 1000000 := by
  unfold ofMillis?
  split
  case isTrue hrange =>
    rw [Option.some.injEq, Instant.ext_iff, eq_comm]
  case isFalse hrange =>
    have hmin := t.min_le
    have hmax := t.le_max
    constructor
    · exact nofun
    · intro hnanos
      rw [hnanos] at hmin hmax
      exact absurd ⟨hmin, hmax⟩ hrange

theorem millis_of_ofMillis? {millis : Int} {t : Instant} (hread : ofMillis? millis = some t) :
    t.millis = millis := by
  rw [ofMillis?_eq_some_iff] at hread
  rw [Instant.millis, hread]
  omega

theorem ofMillis?_isSome_iff {millis : Int} :
    (ofMillis? millis).isSome ↔ -8334601228800000 ≤ millis ∧ millis ≤ 8210266876799999 := by
  unfold ofMillis? minNanos maxNanos
  split <;> simp <;> omega

end Instant

namespace TokenAnswer

/-! ## Reading -/

theorem instantDecoder_lawful : instantDecoder.Lawful :=
  Decoder.refine_lawful (Decoder.integer_lawful _ _) _

theorem record_lawful : record.Lawful :=
  ⟨Decoder.optional_lawful Decoder.text_lawful, Decoder.optional_lawful instantDecoder_lawful,
    Decoder.optional_lawful Decoder.text_lawful, trivial⟩

theorem decoder_lawful : decoder.Lawful :=
  Decoder.map_lawful (Record.decoder_lawful record_lawful) _

/-- Instants lie well within the integers of 64 bits. -/
theorem instantDecoder_ofValue {millis : Int} {t : Instant} :
    instantDecoder.ofValue (.int millis) = .ok t ↔ Instant.ofMillis? millis = some t := by
  change (Decoder.int64.ofValue (.int millis) >>= _) = .ok t ↔ _
  rw [except_bind_eq_ok]
  constructor
  · rintro ⟨held, hheld, hinstant⟩
    have hsame : held = millis := by
      change (if _ then _ else _) = _ at hheld
      split at hheld
      · exact (Except.ok.inj hheld).symm
      · cases hheld
    subst hsame
    split at hinstant
    · cases hinstant
      assumption
    · cases hinstant
  · intro hinstant
    have hrange := Instant.ofMillis?_isSome_iff.1 (Option.isSome_of_eq_some hinstant)
    refine ⟨millis, if_pos (by omega), ?_⟩
    rw [hinstant]

/-- The members of an answer, each under its own name. -/
theorem run_eq_ok_iff {payload : Bytes} {members : List (String × Value)} {answer : TokenAnswer}
    (hparse : parse payload = .ok (.object members)) (hdistinct : Distinct members) :
    decoder.run payload = .ok answer ↔
      record.Holds members (answer.token, answer.expiresAt, answer.refreshToken, ()) := by
  obtain ⟨rest, hread, hend⟩ := readAll_eq_ok_iff.1 hparse
  have hagrees := (decoder_lawful.agrees _ _ _ _ hread).readAll_eq_ok_iff (a := answer) hend
  rw [Decoder.run, hagrees, ← Record.ofMembers_eq_ok (by decide) hdistinct]
  change (record.ofMembers members >>= fun fields => .ok ⟨fields.1, fields.2.1, fields.2.2.1⟩) =
    .ok answer ↔ _
  rw [except_bind_eq_ok]
  constructor
  · rintro ⟨fields, hfields, hdone⟩
    cases hdone
    exact hfields
  · exact fun hfields => ⟨_, hfields, rfl⟩

/-- A text, `null`, or nothing at all. -/
def IsText : Option Value → Prop
  | none | some .null | some (.string _) => True
  | some _ => False

theorem exists_given_text (name : String) {found : Option Value} (htext : IsText found) :
    ∃ text, Record.Given (.withDefault name Decoder.text.optional none) found text := by
  cases found with
  | none => exact ⟨none, rfl⟩
  | some value =>
      cases value with
      | null => exact ⟨none, rfl⟩
      | string text => exact ⟨some text, rfl⟩
      | _ => exact htext.elim

theorem given_instant_iff {millis : Int} {found : Option Instant} :
    Record.Given (.withDefault "expires_at" instantDecoder.optional none) (some (.int millis))
        found ↔ ∃ t, Instant.ofMillis? millis = some t ∧ found = some t := by
  change (instantDecoder.ofValue (.int millis)).map some = .ok found ↔ _
  simp only [← instantDecoder_ofValue]
  cases instantDecoder.ofValue (.int millis) with
  | error fault => simp [Except.map]
  | ok t => simp [Except.map, eq_comm]

/-! ## Writing -/

/-- The answer with its expiry in whole milliseconds. -/
def wholeMillis (answer : TokenAnswer) : TokenAnswer :=
  { answer with expiresAt := answer.expiresAt.map Instant.wholeMillis }

theorem wholeMillis_eq {answer : TokenAnswer}
    (hwhole : ∀ t, answer.expiresAt = some t → 1000000 ∣ t.nanos) :
    answer.wholeMillis = answer := by
  obtain ⟨token, expiresAt, refreshToken⟩ := answer
  cases expiresAt with
  | none => rfl
  | some t => simp [wholeMillis, Instant.wholeMillis_eq (hwhole t rfl)]

theorem instant_ofValue (t : Instant) :
    instantDecoder.ofValue (.int t.millis) = .ok t.wholeMillis := by
  rw [instantDecoder_ofValue, Instant.ofMillis?_eq_some_iff]
  rfl

theorem toJson_fits (answer : TokenAnswer) : answer.toJson.Fits maxDepth := by
  have hinstant : ∀ t : Instant, (Value.int t.millis).Fits 126 := by
    intro t
    have hmin := t.min_le
    have hmax := t.le_max
    refine Value.int_fits ?_
    unfold Number.Exact Instant.millis
    unfold Instant.minNanos at hmin
    unfold Instant.maxNanos at hmax
    omega
  rw [toJson, maxDepth, Value.object_fits_iff]
  simp [hinstant]

theorem ofValue_toJson (answer : TokenAnswer) :
    decoder.ofValue answer.toJson = .ok answer.wholeMillis := by
  have hmembers : record.decoder.ofValue answer.toJson =
      .ok (answer.token, answer.expiresAt.map Instant.wholeMillis, answer.refreshToken, ()) :=
    Record.ofMembers_written (by decide) rfl ⟨Decoder.optionalText_ofValue _,
      Decoder.optional_ofValue instant_ofValue (fun _ => nofun) _,
      Decoder.optionalText_ofValue _, trivial⟩
  exact Decoder.map_ofValue hmembers _

theorem run_octets (answer : TokenAnswer) :
    decoder.run answer.toJson.octets = .ok answer.wholeMillis :=
  (decoder_lawful.run_octets answer.toJson_fits).2 answer.ofValue_toJson

/-- An answer comes back with its expiry rounded towards the past to a whole millisecond, so one
with an expiry in whole milliseconds comes back as it is.  And whatever is read of a payload whose
expiry is a number, it is that number of milliseconds, and nothing if that is no instant. -/
theorem expiry_kept :
    (∀ answer : TokenAnswer, decoder.run answer.toJson.octets = .ok answer.wholeMillis) ∧
    (∀ t : Instant, t.wholeMillis ≤ t ∧ t.nanos < t.wholeMillis.nanos + 1000000 ∧
      1000000 ∣ t.wholeMillis.nanos) ∧
    (∀ answer : TokenAnswer, (∀ t, answer.expiresAt = some t → 1000000 ∣ t.nanos) →
      decoder.run answer.toJson.octets = .ok answer) ∧
    ∀ payload members (millis : Int), parse payload = .ok (.object members) → Distinct members →
      Value.lookup members "expires_at" = some (.int millis) →
      IsText (Value.lookup members "token") → IsText (Value.lookup members "refresh_token") →
      (-8334601228800000 ≤ millis ∧ millis ≤ 8210266876799999 →
        ∃ answer, decoder.run payload = .ok answer ∧
          answer.expiresAt.map Instant.millis = some millis ∧
          answer.toJson.member? "expires_at" = some (.int millis)) ∧
      (millis < -8334601228800000 ∨ 8210266876799999 < millis →
        ∃ fault, decoder.run payload = .error fault) := by
  refine ⟨run_octets, fun t => ⟨t.wholeMillis_le, t.lt_wholeMillis, Int.dvd_mul_left _ _⟩,
    fun answer hwhole => ?_, fun payload members millis hparse hdistinct hmillis htoken hrefresh =>
      ⟨fun hrange => ?_, fun hrange => ?_⟩⟩
  · rw [run_octets, wholeMillis_eq hwhole]
  · obtain ⟨t, ht⟩ := Option.isSome_iff_exists.1 (Instant.ofMillis?_isSome_iff.2 hrange)
    obtain ⟨token, htoken⟩ := exists_given_text "token" htoken
    obtain ⟨refreshToken, hrefresh⟩ := exists_given_text "refresh_token" hrefresh
    have hexpiry := given_instant_iff.2 ⟨t, ht, rfl⟩
    have ht' := Instant.millis_of_ofMillis? ht
    refine ⟨⟨token, some t, refreshToken⟩, ?_, congrArg some ht', ?_⟩
    · refine (run_eq_ok_iff hparse hdistinct).2 ⟨htoken, ?_, hrefresh, trivial⟩
      rw [← hmillis] at hexpiry
      exact hexpiry
    · rw [← ht']
      rfl
  · cases hread : decoder.run payload with
    | error fault => exact ⟨fault, rfl⟩
    | ok answer =>
        obtain ⟨-, hexpiry, -⟩ := (run_eq_ok_iff hparse hdistinct).1 hread
        change Record.Given _ (Value.lookup members "expires_at") _ at hexpiry
        rw [hmillis, given_instant_iff] at hexpiry
        obtain ⟨t, ht, -⟩ := hexpiry
        have hwithin := Instant.ofMillis?_isSome_iff.1 (Option.isSome_of_eq_some ht)
        omega

end TokenAnswer
end BearerClient
