import BearerClient.Proofs.Config.Environment
import BearerClient.Proofs.Json.Fields
import BearerClient.Proofs.Json.RoundTrip

/-!
# Configurations written and read back

Written as JSON and read back, a configuration is the same but for its durations.  Of each there
are as many whole milliseconds left as it has, up to the largest number that is written.  Durations
that are read or have a default are of this kind already, so what came from a text, or from the
environment, comes back as it is.
-/

namespace BearerClient

open Json

/-! ## Whole milliseconds -/

namespace Duration

/-- The duration without its part of a millisecond, and at most 2^64 - 1 milliseconds long. -/
def wholeMillis (d : Duration) : Duration where
  nanos := min (d.nanos / 1000000) 18446744073709551615 * 1000000
  le_max := by
    unfold maxNanos
    omega

theorem nanos_wholeMillis (d : Duration) :
    d.wholeMillis.nanos = min (d.nanos / 1000000) 18446744073709551615 * 1000000 := rfl

example : max.wholeMillis = ofMillis 18446744073709551615 := by decide

theorem ofMillis_min (d : Duration) : ofMillis (min d.millis Config.maxMillis) = d.wholeMillis := by
  ext
  rw [ofMillis, nanos_ofNanos, nanos_wholeMillis, millis]
  unfold maxNanos Config.maxMillis
  omega

/-- A number of whole milliseconds that can be written. -/
def Whole (d : Duration) : Prop := d.wholeMillis = d

theorem Whole.millis_le {d : Duration} (hwhole : d.Whole) : d.millis ≤ Config.maxMillis := by
  have hnanos := congrArg nanos hwhole
  rw [nanos_wholeMillis] at hnanos
  unfold millis Config.maxMillis
  omega

theorem Whole.ofMillis_millis {d : Duration} (hwhole : d.Whole) : ofMillis d.millis = d := by
  rw [← Nat.min_eq_left hwhole.millis_le, ofMillis_min, hwhole]

theorem wholeMillis_whole (d : Duration) : d.wholeMillis.Whole := by
  refine ext ?_
  rw [nanos_wholeMillis, nanos_wholeMillis]
  omega

theorem ofMillis_whole {millis : Nat} (hmillis : millis ≤ 18446744073709551615) :
    (ofMillis millis).Whole := by
  refine ext ?_
  rw [nanos_wholeMillis, ofMillis, nanos_ofNanos]
  unfold maxNanos
  omega

end Duration

namespace Config

/-- The configuration with every duration in whole milliseconds. -/
def wholeMillis (config : Config) : Config :=
  { config with
    requestTimeout := config.requestTimeout.wholeMillis
    connectTimeout := config.connectTimeout.wholeMillis
    refreshMargin := config.refreshMargin.wholeMillis
    freshBuffer := config.freshBuffer.wholeMillis }

/-- Every duration is a number of whole milliseconds that can be written. -/
structure Whole (config : Config) : Prop where
  requestTimeout : config.requestTimeout.Whole
  connectTimeout : config.connectTimeout.Whole
  refreshMargin : config.refreshMargin.Whole
  freshBuffer : config.freshBuffer.Whole

theorem wholeMillis_whole (config : Config) : config.wholeMillis.Whole where
  requestTimeout := Duration.wholeMillis_whole _
  connectTimeout := Duration.wholeMillis_whole _
  refreshMargin := Duration.wholeMillis_whole _
  freshBuffer := Duration.wholeMillis_whole _

theorem Whole.wholeMillis_eq {config : Config} (hwhole : config.Whole) :
    config.wholeMillis = config := by
  rw [wholeMillis, hwhole.requestTimeout, hwhole.connectTimeout, hwhole.refreshMargin,
    hwhole.freshBuffer]

theorem defaults_whole : defaults.Whole where
  requestTimeout := Duration.ofMillis_whole (by decide)
  connectTimeout := Duration.ofMillis_whole (by decide)
  refreshMargin := Duration.ofMillis_whole (by decide)
  freshBuffer := Duration.ofMillis_whole (by decide)

end Config

/-! ## Decoders -/

namespace Login

theorem decoder_lawful : decoder.Lawful := by
  refine Decoder.map_lawful (Record.decoder_lawful ?_) _
  exact ⟨Decoder.text_lawful, Decoder.text_lawful, Decoder.text_lawful, Decoder.text_lawful,
    trivial⟩

theorem ofValue_toJson (login : Login) : decoder.ofValue login.toJson = .ok login := rfl

end Login

namespace Config

theorem durationDecoder_lawful : durationDecoder.Lawful :=
  Decoder.map_lawful (Decoder.natural_lawful 64) _

theorem durationDecoder_ofValue (d : Duration) :
    durationDecoder.ofValue (durationJson d) = .ok d.wholeMillis := by
  have hmillis : min d.millis maxMillis < Nat.pow 2 64 :=
    Nat.lt_succ_of_le (Nat.min_le_right _ _)
  have hjson : durationJson d = .int (min d.millis maxMillis : Nat) := by
    rw [durationJson]
    congr 1
    omega
  rw [hjson, ← Duration.ofMillis_min]
  exact Decoder.map_ofValue (Decoder.natural_ofValue hmillis) Duration.ofMillis

theorem decoder_lawful : decoder.Lawful := by
  refine Decoder.map_lawful (Record.decoder_lawful ?_) _
  exact ⟨Decoder.text_lawful, Login.decoder_lawful, Decoder.text_lawful,
    Decoder.map_lawful (Decoder.natural_lawful 32) _, durationDecoder_lawful,
    durationDecoder_lawful, durationDecoder_lawful, durationDecoder_lawful,
    Decoder.map_lawful (Decoder.natural_lawful 64) _, trivial⟩

/-! ## Writing -/

theorem durationJson_fits (d : Duration) {depth : Nat} : (durationJson d).Fits depth := by
  refine Value.int_fits ?_
  unfold Number.Exact maxMillis
  omega

theorem toJson_fits (config : Config) : config.toJson.Fits maxDepth := by
  have hretries : (Value.int config.maxRetries.toNat).Fits 126 := by
    have hlt := config.maxRetries.toNat_lt
    refine Value.int_fits ?_
    unfold Number.Exact
    omega
  have hidle : (Value.int config.idleConnections.toNat).Fits 126 := by
    have hlt := config.idleConnections.toNat_lt
    refine Value.int_fits ?_
    unfold Number.Exact
    omega
  rw [toJson, maxDepth, Value.object_fits_iff]
  simp [Login.toJson, durationJson_fits, hretries, hidle]

theorem ofValue_toJson (config : Config) :
    decoder.ofValue config.toJson = .ok config.wholeMillis := by
  have hretries : ((Decoder.natural 32).map UInt32.ofNat).ofValue (.int config.maxRetries.toNat) =
      .ok config.maxRetries := by
    rw [Decoder.map_ofValue (Decoder.natural_ofValue config.maxRetries.toNat_lt),
      UInt32.ofNat_toNat]
  have hidle : ((Decoder.natural 64).map UInt64.ofNat).ofValue
      (.int config.idleConnections.toNat) = .ok config.idleConnections := by
    rw [Decoder.map_ofValue (Decoder.natural_ofValue config.idleConnections.toNat_lt),
      UInt64.ofNat_toNat]
  have hmembers : record.decoder.ofValue config.toJson = .ok (config.apiUrl, config.login,
      config.userAgent, config.maxRetries, config.requestTimeout.wholeMillis,
      config.connectTimeout.wholeMillis, config.refreshMargin.wholeMillis,
      config.freshBuffer.wholeMillis, config.idleConnections, ()) :=
    Record.ofMembers_written (by decide) rfl ⟨rfl, rfl, rfl, hretries, durationDecoder_ofValue _,
      durationDecoder_ofValue _, durationDecoder_ofValue _, durationDecoder_ofValue _, hidle,
      trivial⟩
  exact Decoder.map_ofValue hmembers _

/-- Written as JSON, and read back. -/
def roundTrip (config : Config) : Except Fault Config := decoder.run config.toJson.octets

theorem roundTrip_eq (config : Config) : config.roundTrip = .ok config.wholeMillis :=
  (decoder_lawful.run_octets config.toJson_fits).2 config.ofValue_toJson

theorem Whole.roundTrip_eq {config : Config} (hwhole : config.Whole) :
    config.roundTrip = .ok config := by
  rw [Config.roundTrip_eq, hwhole.wholeMillis_eq]

/-! ## Reading -/

theorem gives_durationDecoder {d : Duration} (hgives : durationDecoder.Gives d) : d.Whole := by
  obtain ⟨millis, hmillis, rfl⟩ := Decoder.gives_map hgives
  exact Duration.ofMillis_whole (Nat.le_of_lt_succ (Decoder.gives_natural hmillis))

theorem gives_durationField {name : String} {default d : Duration} (hdefault : default.Whole)
    (hgives : (durationField name default).Gives d) : d.Whole := by
  rcases hgives with hgives | habsent | hshort
  · exact gives_durationDecoder hgives
  · cases habsent
    exact hdefault
  · cases hshort
    exact hdefault

theorem whole_of_run {text : Bytes} {config : Config} (hread : decoder.run text = .ok config) :
    config.Whole := by
  obtain ⟨fields, hfields, rfl⟩ := Decoder.gives_map (Decoder.gives_of_run hread)
  obtain ⟨-, -, -, -, hrequest, hconnect, hmargin, hbuffer, -⟩ := Record.gives_decoder hfields
  exact ⟨gives_durationField defaults_whole.requestTimeout hrequest,
    gives_durationField defaults_whole.connectTimeout hconnect,
    gives_durationField defaults_whole.refreshMargin hmargin,
    gives_durationField defaults_whole.freshBuffer hbuffer⟩

end Config

/-! ## The environment -/

namespace Surroundings

theorem Sets.whole {surroundings : Surroundings} {key : String} {default d : Duration}
    (hsets : surroundings.Sets 64 key .ofMillis default d) (hdefault : default.Whole) :
    d.Whole := by
  obtain ⟨found, hcounts, rfl⟩ := hsets
  cases hcounts with
  | silent => exact hdefault
  | number hsaid hnumber hrange => exact Duration.ofMillis_whole (Nat.le_of_lt_succ hrange)

theorem environmentConfig_whole {surroundings : Surroundings} {config : Config}
    (hread : surroundings.environmentConfig = .ok config) : config.Whole := by
  obtain ⟨hdescribes, -⟩ := environmentConfig_eq_ok_iff.1 hread
  exact ⟨hdescribes.requestTimeout.whole Config.defaults_whole.requestTimeout,
    hdescribes.connectTimeout ▸ Config.defaults_whole.connectTimeout,
    hdescribes.refreshMargin.whole Config.defaults_whole.refreshMargin,
    hdescribes.freshBuffer.whole Config.defaults_whole.freshBuffer⟩

end Surroundings

/-- A configuration comes back with its durations in whole milliseconds.  So a second time makes no
difference, and neither does the first if the configuration came from a text or from the
environment. -/
theorem Config.roundTrip_exact :
    (∀ config : Config, config.roundTrip = .ok config.wholeMillis) ∧
    (∀ config : Config, (config.roundTrip >>= roundTrip) = config.roundTrip) ∧
    (∀ text config, decoder.run text = .ok config → config.roundTrip = .ok config) ∧
    ∀ (surroundings : Surroundings) config,
      surroundings.environmentConfig = .ok config → config.roundTrip = .ok config := by
  refine ⟨roundTrip_eq, fun config => ?_, fun text config hread => ?_,
    fun surroundings config hread => ?_⟩
  · have htwice : (config.roundTrip >>= roundTrip) = .ok config.wholeMillis :=
      except_bind_eq_ok.2 ⟨_, roundTrip_eq config, config.wholeMillis_whole.roundTrip_eq⟩
    rw [htwice, roundTrip_eq]
  · exact (whole_of_run hread).roundTrip_eq
  · exact (Surroundings.environmentConfig_whole hread).roundTrip_eq

end BearerClient
