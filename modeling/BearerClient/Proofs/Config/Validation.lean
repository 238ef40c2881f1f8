import BearerClient.Config
import BearerClient.Proofs.Json.Reading

/-!
# Valid configurations

What a configuration needs for the check to pass it: a root that is a URL of the web, a login all
of whose parts are there, a request timeout above zero and a user agent.  The other settings are
not looked at.
-/

namespace BearerClient.Config

open Json (except_bind_eq_ok)

variable {config : Config}

theorem check_eq_ok_iff {α : Type} {check : Except Failure Unit} {next : Except Failure α} {a : α} :
    (check >>= fun _ => next) = .ok a ↔ check = .ok () ∧ next = .ok a := by
  rw [except_bind_eq_ok]
  exact ⟨fun ⟨(), hcheck⟩ => hcheck, fun hcheck => ⟨(), hcheck⟩⟩

theorem require_eq_ok_iff {condition : Bool} {message : String} :
    require condition message = .ok () ↔ condition = true := by
  cases condition <;> simp [require]

theorem rootUrl_eq_ok_iff {url : Url} :
    config.rootUrl = .ok url ↔ Url.parse config.root = .ok url := by
  unfold rootUrl
  cases Url.parse config.root <;> simp

theorem checkLogin_eq_ok_iff {login : Login} :
    checkLogin login = .ok () ↔ ∀ part ∈ loginParts login, Text.isBlank part.2 = false := by
  unfold checkLogin
  cases hfind : (loginParts login).find? fun part => Text.isBlank part.2 with
  | none => simpa using hfind
  | some part =>
      have hblank : Text.isBlank part.2 = true :=
        List.find?_some (p := fun part : String × String => Text.isBlank part.2) hfind
      constructor
      · intro hcheck
        cases hcheck
      · intro hall
        rw [hall part (List.mem_of_find?_eq_some hfind)] at hblank
        cases hblank

/-- All that is checked of a configuration. -/
structure Valid (config : Config) : Prop where
  root : ∃ url, Url.parse config.root = .ok url ∧ (url.scheme = "http" ∨ url.scheme = "https")
  login : ∀ part ∈ loginParts config.login, Text.isBlank part.2 = false
  requestTimeout : config.requestTimeout.isZero = false
  userAgent : Text.isBlank config.userAgent = false

theorem validate_eq_ok_iff : config.validate = .ok () ↔ config.Valid := by
  unfold validate
  rw [except_bind_eq_ok]
  simp only [check_eq_ok_iff, require_eq_ok_iff, rootUrl_eq_ok_iff, checkLogin_eq_ok_iff,
    Bool.or_eq_true, Bool.not_eq_true', decide_eq_true_eq]
  constructor
  · rintro ⟨url, hroot, hscheme, hlogin, htimeout, hagent⟩
    exact ⟨⟨url, hroot, hscheme⟩, hlogin, htimeout, hagent⟩
  · rintro ⟨⟨url, hroot, hscheme⟩, hlogin, htimeout, hagent⟩
    exact ⟨url, hroot, hscheme, hlogin, htimeout, hagent⟩

/-- The settings with defaults can be given any other valid values before the check or after. -/
theorem Valid.of_defaults (hvalid : config.Valid) :
    ({ apiUrl := config.apiUrl, login := config.login } : Config).Valid where
  root := hvalid.root
  login := hvalid.login
  requestTimeout := rfl
  userAgent := by
    change Text.isBlank "graphlink 0.1.0" = false
    decide

theorem Valid.apiUrl_not_blank (hvalid : config.Valid) : Text.isBlank config.apiUrl = false := by
  obtain ⟨url, hroot, -⟩ := hvalid.root
  rw [← Bool.not_eq_true, ← Text.trim_eq_empty_iff]
  intro hempty
  rw [Config.root, hempty] at hroot
  cases hroot

end BearerClient.Config
