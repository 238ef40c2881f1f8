import BearerClient.Credential

/-!
# Complete credentials

A credential that comes from an answer is complete: none of its texts is blank,
and it has both of its instants.  The blank credential has no part at all.  What
is shown of a credential does not depend on more than which of the two it is.
-/

namespace BearerClient.Credential

/-- The credential can be used, and renewed if it has a refresh token. -/
structure Complete (credential : Credential) : Prop where
  token : credential.isBlank = false
  expiresAt : credential.expiresAt.isSome = true
  lastUpdate : credential.lastUpdate.isSome = true
  refreshToken : ∀ refreshToken, credential.refreshToken = some refreshToken →
    Text.isBlank refreshToken = false

/-- All of a credential or nothing. -/
def BlankOrComplete (credential : Credential) : Prop :=
  credential = .blank ∨ credential.Complete

variable {answer : TokenAnswer} {now : Instant} {credential : Credential}

theorem isBlank_of_nonBlank {text : Option String} {held : String}
    (hheld : nonBlank text = some held) : Text.isBlank held = false := by
  rw [nonBlank, Option.filter_eq_some_iff] at hheld
  simpa using hheld.2

theorem ofAnswer_complete (hissued : ofAnswer answer now = .ok credential) :
    credential.Complete := by
  unfold ofAnswer at hissued
  split at hissued
  · cases hissued
  · rename_i token htoken
    split at hissued
    · cases hissued
    · cases hissued
      exact ⟨isBlank_of_nonBlank htoken, rfl, rfl,
        fun refreshToken hrefresh => isBlank_of_nonBlank hrefresh⟩

theorem BlankOrComplete.refreshToken (hcredential : credential.BlankOrComplete)
    {refreshToken : String}
    (hrefresh : credential.refreshToken = some refreshToken) :
    Text.isBlank refreshToken = false := by
  rcases hcredential with rfl | hcomplete
  · cases hrefresh
  · exact hcomplete.refreshToken refreshToken hrefresh

/-- There is a threshold exactly if there is a token. -/
theorem BlankOrComplete.threshold (hcredential : credential.BlankOrComplete)
    (margin : Duration) :
    (credential.threshold margin).isSome = !credential.isBlank := by
  rcases hcredential with rfl | hcomplete
  · rfl
  · rw [Credential.threshold, Option.isSome_map, hcomplete.expiresAt,
      hcomplete.token]
    rfl

end BearerClient.Credential
