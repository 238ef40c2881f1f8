import BearerClient.Json.Writer

/-!
# Escapes are read in one way

Different characters are written differently inside a string, and none is
written as the start of another.  So a written string stands for one text.
-/

namespace BearerClient.Json.Write

/-- The characters with short escapes, and the letters of these. -/
def shortEscapes : List (Char × Char) :=
  [('"', '"'), ('\\', '\\'), ('\x08', 'b'), ('\x09', 't'), ('\x0a', 'n'),
    ('\x0c', 'f'), ('\x0d', 'r')]

theorem mem_shortEscapes {c letter : Char}
    (hletter : shortEscape? c = some letter) : (c, letter) ∈ shortEscapes := by
  unfold shortEscape? at hletter
  repeat' split at hletter
  all_goals
    cases hletter <;> simp_all [shortEscapes]

theorem shortEscapes_injective {c d letter : Char}
    (hc : (c, letter) ∈ shortEscapes) (hd : (d, letter) ∈ shortEscapes) :
    c = d := by
  have hall : ∀ first ∈ shortEscapes, ∀ second ∈ shortEscapes,
      first.2 = second.2 → first.1 = second.1 := by decide
  exact hall _ hc _ hd rfl

theorem letter_ne_u {c letter : Char} (hc : (c, letter) ∈ shortEscapes) :
    letter ≠ 'u' := by
  have hall : ∀ pair ∈ shortEscapes, pair.2 ≠ 'u' := by decide
  exact hall _ hc

theorem hexDigit_injective {m n : Nat} (hm : m < 16) (hn : n < 16)
    (h : hexDigit m = hexDigit n) : m = n := by
  have hall : ∀ m < 16, ∀ n < 16, hexDigit m = hexDigit n → m = n := by decide
  exact hall m hm n hn h

/-- The three ways in which a character is written. -/
theorem escaped_cases (c : Char) :
    (∃ letter, (c, letter) ∈ shortEscapes ∧ escaped c = ['\\', letter]) ∨
    (c.toNat < 0x20 ∧
      escaped c = ['\\', 'u', '0', '0', hexDigit (c.toNat / 16),
        hexDigit (c.toNat % 16)]) ∨
    (c ≠ '\\' ∧ c ≠ '"' ∧ escaped c = [c]) := by
  unfold escaped
  cases hletter : shortEscape? c with
  | some letter => exact .inl ⟨letter, mem_shortEscapes hletter, rfl⟩
  | none =>
      by_cases hcontrol : c.toNat < 0x20
      · simp only [if_pos hcontrol]
        exact .inr (.inl ⟨hcontrol, trivial⟩)
      · simp only [if_neg hcontrol]
        refine .inr (.inr ⟨fun hc => ?_, fun hc => ?_, trivial⟩) <;>
          simp [hc, shortEscape?] at hletter

theorem toNat_injective {c d : Char} (h : c.toNat = d.toNat) : c = d :=
  Char.toNat_inj.1 h

theorem escaped_append_inj {c d : Char} {rest rest' : List Char}
    (h : escaped c ++ rest = escaped d ++ rest') : c = d ∧ rest = rest' := by
  rcases escaped_cases c with ⟨l, hl, hc⟩ | ⟨hlow, hc⟩ | ⟨hne, -, hc⟩ <;>
    rcases escaped_cases d with ⟨l', hl', hd⟩ | ⟨hlow', hd⟩ | ⟨hne', -, hd⟩ <;>
    rw [hc, hd] at h <;>
    simp only [List.cons_append, List.nil_append, List.cons.injEq] at h
  · obtain ⟨-, rfl, hrest⟩ := h
    exact ⟨shortEscapes_injective hl hl', hrest⟩
  · exact absurd h.2.1 (letter_ne_u hl)
  · exact absurd h.1.symm hne'
  · exact absurd h.2.1.symm (letter_ne_u hl')
  · obtain ⟨-, -, -, -, hhigh, hlowDigit, hrest⟩ := h
    have hdiv := hexDigit_injective (by omega) (by omega) hhigh
    have hmod := hexDigit_injective (by omega) (by omega) hlowDigit
    exact ⟨toNat_injective (by omega), hrest⟩
  · exact absurd h.1.symm hne'
  · exact absurd h.1 hne
  · exact absurd h.1 hne
  · exact h

theorem escaped_append_ne_quote (c : Char) (rest rest' : List Char) :
    escaped c ++ rest ≠ '"' :: rest' := by
  rcases escaped_cases c with ⟨l, hl, hc⟩ | ⟨hlow, hc⟩ | ⟨-, hne, hc⟩ <;>
    rw [hc] <;> simp
  exact fun h => absurd h hne

/-- A quote ends a written text and nothing before it does. -/
theorem flatMap_escaped_inj {text text' rest rest' : List Char}
    (h : text.flatMap escaped ++ '"' :: rest =
      text'.flatMap escaped ++ '"' :: rest') : text = text' ∧ rest = rest' := by
  induction text generalizing text' with
  | nil =>
      cases text' with
      | nil => simpa using h
      | cons d text' =>
          simp only [List.flatMap_nil, List.nil_append, List.flatMap_cons,
            List.append_assoc] at h
          exact absurd h.symm (escaped_append_ne_quote d _ _)
  | cons c text ih =>
      cases text' with
      | nil =>
          simp only [List.flatMap_nil, List.nil_append, List.flatMap_cons,
            List.append_assoc] at h
          exact absurd h (escaped_append_ne_quote c _ _)
      | cons d text' =>
          simp only [List.flatMap_cons, List.append_assoc] at h
          obtain ⟨rfl, hrest⟩ := escaped_append_inj h
          obtain ⟨rfl, hend⟩ := ih hrest
          exact ⟨rfl, hend⟩

end BearerClient.Json.Write
