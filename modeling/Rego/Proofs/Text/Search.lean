import Mathlib.Data.List.Infix
import Rego.Text.Search

/-!
# Occurrences of a piece

A piece occurs in a text at a position if that many characters stand in front of it. Prefixes,
suffixes and infixes are occurrences at zero, at the greatest position that leaves room for the
piece, and anywhere.

Cutting a text finds its leftmost occurrence (`leftmost_of_cut?`), and it finds one whenever the
piece occurs (`cut?_eq_none_iff`). A text has one cut at a leftmost occurrence, so these two facts
say what cutting gives (`cut?_eq_some_iff`), and nothing below has to look at the search again.
-/

namespace Rego.Text

set_option autoImplicit false

variable {piece text before after rest : List Char} {character : Char} {position : Nat}

/-! ## Prefixes and suffixes -/

theorem afterPrefix?_eq_some_iff : afterPrefix? piece text = some rest ↔ text = piece ++ rest := by
  induction piece generalizing text with
  | nil => simp [afterPrefix?]
  | cons expected piece ih =>
      cases text with
      | nil => simp [afterPrefix?]
      | cons character text =>
          by_cases same : expected = character
          · simp [afterPrefix?, same, ih]
          · simp [afterPrefix?, same, Ne.symm same]

theorem afterPrefix?_eq_none_iff : afterPrefix? piece text = none ↔ ¬piece <+: text := by
  rw [Option.eq_none_iff_forall_ne_some]
  simp only [ne_eq, afterPrefix?_eq_some_iff]
  exact ⟨fun none ⟨rest, same⟩ => none rest same.symm, fun none rest same => none ⟨rest, same.symm⟩⟩

theorem startsWith_iff : startsWith piece text = true ↔ piece <+: text := by
  rw [startsWith, Option.isSome_iff_ne_none, ne_eq, afterPrefix?_eq_none_iff, Decidable.not_not]

theorem endsWith_iff : endsWith piece text = true ↔ piece <:+ text := by
  rw [endsWith, startsWith_iff, List.reverse_prefix]

theorem dropPrefix_append (piece rest : List Char) : dropPrefix piece (piece ++ rest) = rest := by
  rw [dropPrefix, afterPrefix?_eq_some_iff.mpr rfl]
  rfl

theorem dropPrefix_of_not_prefix (absent : ¬piece <+: text) : dropPrefix piece text = text := by
  rw [dropPrefix, afterPrefix?_eq_none_iff.mpr absent]
  rfl

theorem dropSuffix_append (rest piece : List Char) : dropSuffix piece (rest ++ piece) = rest := by
  have found : afterPrefix? piece.reverse (rest ++ piece).reverse = some rest.reverse :=
    afterPrefix?_eq_some_iff.mpr (List.reverse_append ..)
  rw [dropSuffix, found]
  exact List.reverse_reverse rest

theorem dropSuffix_of_not_suffix (absent : ¬piece <:+ text) : dropSuffix piece text = text := by
  have none : afterPrefix? piece.reverse text.reverse = none := by
    rwa [afterPrefix?_eq_none_iff, List.reverse_prefix]
  rw [dropSuffix, none]

/-! ## Positions -/

/-- A piece occurs in a text behind a number of characters. -/
def OccursAt (piece text : List Char) (position : Nat) : Prop :=
  ∃ before after, before.length = position ∧ text = before ++ piece ++ after

theorem occursAt_length (before after : List Char) :
    OccursAt piece (before ++ piece ++ after) before.length :=
  ⟨before, after, rfl, rfl⟩

theorem occursAt_zero_iff : OccursAt piece text 0 ↔ piece <+: text := by
  constructor
  · rintro ⟨before, after, none, rfl⟩
    rw [List.eq_nil_of_length_eq_zero none]
    exact ⟨after, rfl⟩
  · rintro ⟨after, rfl⟩
    exact ⟨[], after, rfl, rfl⟩

/-- Behind other characters a piece occurs later by their number. -/
theorem occursAt_append_iff (passed : List Char) :
    OccursAt piece (passed ++ text) (passed.length + position) ↔ OccursAt piece text position := by
  constructor
  · rintro ⟨before, after, count, same⟩
    have shorter : passed.length ≤ before.length := by omega
    obtain ⟨further, rfl⟩ : passed <+: before := by
      refine List.prefix_of_prefix_length_le ⟨text, same⟩ ?_ shorter
      exact ⟨piece ++ after, (List.append_assoc ..).symm⟩
    rw [List.append_assoc, List.append_assoc, List.append_cancel_left_eq] at same
    refine ⟨further, after, ?_, by rw [same, List.append_assoc]⟩
    rw [List.length_append] at count
    omega
  · rintro ⟨before, after, rfl, rfl⟩
    exact ⟨passed ++ before, after, List.length_append, by simp⟩

theorem occursAt_cons_succ_iff :
    OccursAt piece (character :: text) (position + 1) ↔ OccursAt piece text position := by
  rw [Nat.add_comm]
  exact occursAt_append_iff [character]

/-- A piece occurs where a portion of its length is the piece. -/
theorem occursAt_iff_take (inhabited : piece ≠ []) :
    OccursAt piece text position ↔ (text.drop position).take piece.length = piece := by
  constructor
  · rintro ⟨before, after, rfl, rfl⟩
    rw [List.append_assoc, List.drop_left, List.take_left]
  · intro portion
    have inside : position < text.length := by
      by_contra past
      rw [List.drop_eq_nil_of_le (Nat.le_of_not_lt past), List.take_nil] at portion
      exact inhabited portion.symm
    refine ⟨text.take position, text.drop (position + piece.length), ?_, ?_⟩
    · exact List.length_take_of_le (Nat.le_of_lt inside)
    · calc
        text = text.take position ++ text.drop position := (List.take_append_drop ..).symm
        _ = text.take position ++ (piece ++ (text.drop position).drop piece.length) := by
          conv_lhs => rw [← List.take_append_drop piece.length (text.drop position), portion]
        _ = text.take position ++ piece ++ text.drop (position + piece.length) := by
          rw [List.drop_drop, List.append_assoc]

theorem OccursAt.add_length_le (occurs : OccursAt piece text position) :
    position + piece.length ≤ text.length := by
  obtain ⟨before, after, rfl, rfl⟩ := occurs
  simp only [List.length_append]
  omega

theorem exists_occursAt_iff : (∃ position, OccursAt piece text position) ↔ piece <:+: text := by
  constructor
  · rintro ⟨_, before, after, _, rfl⟩
    exact ⟨before, after, rfl⟩
  · rintro ⟨before, after, rfl⟩
    exact ⟨before.length, occursAt_length before after⟩

/-- A suffix occurs at the position that leaves room for nothing but it. -/
theorem suffix_iff_occursAt :
    piece <:+ text ↔
      piece.length ≤ text.length ∧ OccursAt piece text (text.length - piece.length) := by
  constructor
  · rintro ⟨before, rfl⟩
    rw [List.length_append, Nat.add_sub_cancel]
    exact ⟨Nat.le_add_left .., before, [], rfl, (List.append_nil _).symm⟩
  · rintro ⟨_, before, after, count, rfl⟩
    simp only [List.length_append] at count
    obtain rfl : after = [] := List.eq_nil_of_length_eq_zero (by omega)
    exact ⟨before, (List.append_nil _).symm⟩

/-! ## The leftmost occurrence -/

/-- A text is cut around a piece that occurs nowhere further to the left. -/
structure Leftmost (piece text before after : List Char) : Prop where
  whole : text = before ++ piece ++ after
  first : ∀ position < before.length, ¬OccursAt piece text position

theorem Leftmost.occursAt (leftmost : Leftmost piece text before after) :
    OccursAt piece text before.length :=
  ⟨before, after, rfl, leftmost.whole⟩

/-- A text has at most one cut at a leftmost occurrence. -/
theorem Leftmost.unique {others rest : List Char} (one : Leftmost piece text before after)
    (two : Leftmost piece text others rest) : before = others ∧ after = rest := by
  have count : before.length = others.length := by
    refine Nat.le_antisymm (Nat.le_of_not_lt fun less => ?_) (Nat.le_of_not_lt fun less => ?_)
    · exact one.first _ less two.occursAt
    · exact two.first _ less one.occursAt
  have same := one.whole.symm.trans two.whole
  rw [List.append_assoc, List.append_assoc] at same
  obtain ⟨front, back⟩ := List.append_inj same count
  exact ⟨front, (List.append_cancel_left_eq ..).mp back⟩

/-- The first character moves from the text to the part before the piece. -/
theorem Leftmost.cons (absent : ¬piece <+: character :: text)
    (leftmost : Leftmost piece text before after) :
    Leftmost piece (character :: text) (character :: before) after := by
  refine ⟨by rw [leftmost.whole]; rfl, fun position less => ?_⟩
  cases position with
  | zero => rwa [occursAt_zero_iff]
  | succ position =>
      rw [occursAt_cons_succ_iff]
      exact leftmost.first position (Nat.lt_of_succ_lt_succ less)

/-- **Cutting finds the leftmost occurrence.** -/
theorem leftmost_of_cut? (found : cut? piece text = some (before, after)) :
    Leftmost piece text before after := by
  induction text generalizing before with
  | nil =>
      obtain ⟨rest, here, same⟩ := Option.map_eq_some_iff.mp found
      cases same
      exact ⟨afterPrefix?_eq_some_iff.mp here, fun _ less => absurd less (Nat.not_lt_zero _)⟩
  | cons character text ih =>
      rw [cut?] at found
      split at found
      · next rest here =>
          cases found
          exact ⟨afterPrefix?_eq_some_iff.mp here, fun _ less => absurd less (Nat.not_lt_zero _)⟩
      · next absent =>
          obtain ⟨⟨front, back⟩, later, same⟩ := Option.map_eq_some_iff.mp found
          cases same
          exact (ih later).cons (afterPrefix?_eq_none_iff.mp absent)

/-- **Cutting fails on texts without the piece only.** -/
theorem cut?_eq_none_iff : cut? piece text = none ↔ ¬piece <:+: text := by
  constructor
  · intro none
    induction text with
    | nil =>
        rw [cut?, Option.map_eq_none_iff, afterPrefix?_eq_none_iff] at none
        intro occurs
        rw [List.eq_nil_of_infix_nil occurs] at none
        exact none (List.nil_prefix ..)
    | cons character text ih =>
        rw [cut?] at none
        split at none
        · cases none
        · next absent =>
            rw [Option.map_eq_none_iff] at none
            rw [List.infix_cons_iff, not_or]
            exact ⟨afterPrefix?_eq_none_iff.mp absent, ih none⟩
  · intro absent
    cases found : cut? piece text with
    | none => rfl
    | some cut =>
        have occurs := (leftmost_of_cut? found).occursAt
        exact absurd (exists_occursAt_iff.mp ⟨_, occurs⟩) absent

theorem cut?_eq_some_iff :
    cut? piece text = some (before, after) ↔ Leftmost piece text before after := by
  refine ⟨leftmost_of_cut?, fun leftmost => ?_⟩
  cases found : cut? piece text with
  | none =>
      have occurs := exists_occursAt_iff.mp ⟨_, leftmost.occursAt⟩
      exact absurd occurs (cut?_eq_none_iff.mp found)
  | some cut =>
      obtain ⟨front, back⟩ := (leftmost_of_cut? found).unique leftmost
      rw [← front, ← back]

theorem contains_iff : contains piece text = true ↔ piece <:+: text := by
  rw [contains, Option.isSome_iff_ne_none, ne_eq, cut?_eq_none_iff, Decidable.not_not]

end Rego.Text
