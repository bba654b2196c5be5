import Rego.Text.Case

/-!
# Texts but for letter case

Two texts agree but for the case of basic Latin letters when their characters do, one by one
(`Recased`). So a text that agrees with two parts in a row has two such parts itself
(`Recased.exists_append`). No character outside ASCII has an ASCII letter for its lower case, so a
text that agrees with an ASCII text is one (`toNat_lt_of_lowerBasic`).
-/

namespace Rego.Text

set_option autoImplicit false

/-- Texts that agree but for the case of basic Latin letters. -/
def Recased (one other : List Char) : Prop := one.map lowerBasic = other.map lowerBasic

instance (one other : List Char) : Decidable (Recased one other) :=
  inferInstanceAs (Decidable (one.map lowerBasic = other.map lowerBasic))

namespace Recased

variable {one other front back : List Char}

theorem refl (characters : List Char) : Recased characters characters := rfl

theorem length_eq (same : Recased one other) : one.length = other.length := by
  have lengths := congrArg List.length same
  rwa [List.length_map, List.length_map] at lengths

theorem exists_cons {first : Char} {rest : List Char} (same : Recased one (first :: rest)) :
    ∃ character others, one = character :: others ∧ lowerBasic character = lowerBasic first ∧
      Recased others rest := by
  obtain ⟨character, others, rfl, here, later⟩ := List.map_eq_cons_iff.mp same
  exact ⟨character, others, rfl, here, later⟩

/-- A text that agrees with two parts in a row has two such parts. -/
theorem exists_append (same : Recased one (front ++ back)) :
    ∃ first second, one = first ++ second ∧ Recased first front ∧ Recased second back := by
  have parts := (show one.map lowerBasic = _ from same).trans List.map_append
  obtain ⟨first, second, rfl, here, later⟩ := List.map_eq_append_iff.mp parts
  exact ⟨first, second, rfl, here, later⟩

theorem append {first second : List Char} (here : Recased first front)
    (later : Recased second back) : Recased (first ++ second) (front ++ back) := by
  unfold Recased at here later ⊢
  rw [List.map_append, List.map_append, here, later]

end Recased

theorem toNat_lt_of_lowerBasic {character other : Char} (ascii : other.toNat < 0x80)
    (same : lowerBasic character = lowerBasic other) : character.toNat < 0x80 := by
  by_cases upper : 65 ≤ character.toNat ∧ character.toNat ≤ 90
  · omega
  · have lowered : ∀ code < 0x80, (lowerBasic (Char.ofNat code)).toNat < 0x80 := by decide
    have below := lowered other.toNat ascii
    rw [Char.ofNat_toNat, ← same, lowerBasic, if_neg upper] at below
    exact below

theorem toNat_ofNat_of_valid {code : Nat} (valid : code.isValidChar) :
    (Char.ofNat code).toNat = code := by
  unfold Char.ofNat
  rw [dif_pos valid]
  rfl

/-- A character that has no other case agrees with itself only. -/
theorem eq_of_lowerBasic {character other : Char}
    (caseless : other.toNat < 65 ∨ 122 < other.toNat)
    (same : lowerBasic character = lowerBasic other) : character = other := by
  have kept : lowerBasic other = other := if_neg (by omega)
  rw [kept, lowerBasic] at same
  split at same
  · next upper =>
      have valid : (character.toNat + 32).isValidChar := .inl (by omega)
      have lowered := congrArg Char.toNat same
      rw [toNat_ofNat_of_valid valid] at lowered
      omega
  · exact same

end Rego.Text
