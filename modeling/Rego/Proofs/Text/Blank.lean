import Mathlib.Data.List.DropRight
import Mathlib.Data.List.TakeWhile
import Rego.Text.Blank

/-!
# Trimming

Trimming takes away borders that satisfy a test (`exists_trimWhile`), and all of them: what is left
neither begins nor ends with a character that satisfies it (`bordered_trimWhile`). It is the only
core between such borders (`Bordered.trimWhile_eq`), so what stands between borders and has no
character that satisfies the test is what is left (`trimWhile_append`). Borders change places when a
text is read backwards (`Bordered.reverse`), so trimming may start at either end
(`dropWhile_dropEndWhile`).

White space is the 25 characters that Unicode lists (`isBlank_iff`).
-/

namespace Rego.Text

set_option autoImplicit false

/-! ## One border -/

/-- What is dropped from the end satisfies the test. -/
theorem exists_dropEndWhile {α : Type} (test : α → Bool) (items : List α) :
    ∃ dropped, (∀ item ∈ dropped, test item = true) ∧
      items = dropEndWhile test items ++ dropped :=
  ⟨items.rtakeWhile test, fun _ => List.mem_rtakeWhile_imp,
    List.rdropWhile_append_rtakeWhile.symm⟩

section Borders

variable {Item : Type} {test : Item → Bool} {before core after : List Item}

/-- A border is dropped up to the first item that fails the test. -/
theorem dropWhile_append (leading : ∀ item ∈ before, test item = true)
    (solid : ∀ item ∈ core.head?, test item = false) : (before ++ core).dropWhile test = core := by
  rw [List.dropWhile_append_of_pos leading]
  cases core with
  | nil => rfl
  | cons first rest => rw [List.dropWhile_cons_of_neg (by simp [solid first rfl])]

/-- A border at the end is dropped up to the last item that fails the test. -/
theorem dropEndWhile_append (trailing : ∀ item ∈ after, test item = true)
    (solid : ∀ item ∈ core.getLast?, test item = false) :
    dropEndWhile test (core ++ after) = core := by
  rw [dropEndWhile, List.reverse_append, dropWhile_append, List.reverse_reverse]
  · exact fun item member => trailing item (List.mem_reverse.mp member)
  · rwa [List.head?_reverse]

end Borders

variable {test : Char → Bool} {whole before core after : List Char}

/-- Dropping stops at a character that fails the test. -/
theorem head?_dropWhile (test : Char → Bool) (characters : List Char) :
    ∀ character ∈ (characters.dropWhile test).head?, test character = false := by
  intro character first
  have some : characters.dropWhile test ≠ [] := by
    intro none
    rw [none] at first
    cases first
  rw [← (List.head_eq_iff_head?_eq_some some).mpr first]
  exact List.head_dropWhile_not test some

theorem getLast?_dropEndWhile (test : Char → Bool) (characters : List Char) :
    ∀ character ∈ (dropEndWhile test characters).getLast?, test character = false := by
  rw [dropEndWhile, List.getLast?_reverse]
  exact head?_dropWhile test characters.reverse

/-! ## Two borders -/

/-- A text with borders of some kind of characters, and between them a core that neither begins nor
ends with a character of this kind. -/
structure Bordered (border : Char → Prop) (whole before core after : List Char) : Prop where
  parts : whole = before ++ core ++ after
  leading : ∀ character ∈ before, border character
  trailing : ∀ character ∈ after, border character
  opens : ∀ character ∈ core.head?, ¬border character
  closes : ∀ character ∈ core.getLast?, ¬border character

/-- Read backwards, a text has its borders exchanged. -/
theorem Bordered.reverse {border : Char → Prop}
    (bordered : Bordered border whole before core after) :
    Bordered border whole.reverse after.reverse core.reverse before.reverse where
  parts := by rw [bordered.parts, List.reverse_append, List.reverse_append, List.append_assoc]
  leading character member := bordered.trailing character (List.mem_reverse.mp member)
  trailing character member := bordered.leading character (List.mem_reverse.mp member)
  opens character first := bordered.closes character (List.head?_reverse ▸ first)
  closes character last := bordered.opens character (List.getLast?_reverse ▸ last)

section Borders

variable {border : Char → Prop} (agrees : ∀ character, test character = true ↔ border character)

include agrees

/-- **What stands between borders is what is left,** if it has no borders of its own. -/
theorem Bordered.trimWhile_eq (bordered : Bordered border whole before core after) :
    trimWhile test whole = core := by
  obtain ⟨rfl, leading, trailing, opens, closes⟩ := bordered
  simp only [← agrees, Bool.not_eq_true] at leading trailing opens closes
  rw [trimWhile, List.append_assoc]
  cases core with
  | nil =>
      -- the text is nothing but border, and the first pass takes all of it
      have all : ∀ character ∈ before ++ after, test character = true :=
        fun character member => (List.mem_append.mp member).elim (leading character)
          (trailing character)
      rw [List.nil_append, List.dropWhile_eq_nil_iff.mpr all]
      rfl
  | cons first rest =>
      have goes : (before ++ (first :: rest ++ after)).dropWhile test = first :: rest ++ after :=
        dropWhile_append leading opens
      rw [goes]
      exact dropEndWhile_append trailing closes

/-- **Trimming takes away the longest borders.** -/
theorem bordered_trimWhile (whole : List Char) :
    ∃ before after, Bordered border whole before (trimWhile test whole) after := by
  obtain ⟨after, trailing, same⟩ := exists_dropEndWhile test (whole.dropWhile test)
  have parts : whole = whole.takeWhile test ++ trimWhile test whole ++ after := by
    rw [trimWhile, List.append_assoc, ← same, List.takeWhile_append_dropWhile]
  refine ⟨whole.takeWhile test, after, parts, ?_, ?_, ?_, ?_⟩ <;>
    simp only [← agrees, Bool.not_eq_true]
  · exact fun _ => List.mem_takeWhile_imp
  · exact trailing
  · intro character first
    refine head?_dropWhile test whole character ?_
    rw [same]
    exact List.mem_head?_append_of_mem_head? first
  · exact getLast?_dropEndWhile test _

end Borders

theorem trimWhile_reverse (test : Char → Bool) (characters : List Char) :
    trimWhile test characters.reverse = (trimWhile test characters).reverse := by
  obtain ⟨before, after, bordered⟩ := bordered_trimWhile (fun _ => Iff.rfl) characters
  exact bordered.reverse.trimWhile_eq fun _ => Iff.rfl

theorem dropEndWhile_dropEndWhile (test : Char → Bool) (characters : List Char) :
    dropEndWhile test (dropEndWhile test characters) = dropEndWhile test characters :=
  List.rdropWhile_idempotent test characters

/-- **Trimming may start at either end.** -/
theorem dropWhile_dropEndWhile (test : Char → Bool) (characters : List Char) :
    (dropEndWhile test characters).dropWhile test = trimWhile test characters := by
  rw [← List.reverse_inj, ← trimWhile_reverse]
  rfl

theorem trimWhile_trimWhile (test : Char → Bool) (characters : List Char) :
    trimWhile test (trimWhile test characters) = trimWhile test characters := by
  have left : (trimWhile test characters).dropWhile test = trimWhile test characters := by
    rw [← dropWhile_dropEndWhile, List.dropWhile_idempotent]
  rw [trimWhile, left]
  exact dropEndWhile_dropEndWhile test _

/-- What trimming takes away satisfies the test. -/
theorem exists_trimWhile (test : Char → Bool) (characters : List Char) :
    ∃ before after, (∀ character ∈ before, test character = true) ∧
      (∀ character ∈ after, test character = true) ∧
      characters = before ++ trimWhile test characters ++ after := by
  obtain ⟨before, after, bordered⟩ := bordered_trimWhile (fun _ => Iff.rfl) characters
  exact ⟨before, after, bordered.leading, bordered.trailing, bordered.parts⟩

/-- What stands between borders and has no character that satisfies the test is what is left. -/
theorem trimWhile_append (leading : ∀ character ∈ before, test character = true)
    (solid : ∀ character ∈ core, test character = false)
    (trailing : ∀ character ∈ after, test character = true) :
    trimWhile test (before ++ core ++ after) = core := by
  have bordered : Bordered (test · = true) (before ++ core ++ after) before core after := {
    parts := rfl
    leading
    trailing
    opens := fun character first =>
      Bool.eq_false_iff.mp (solid character (List.mem_of_mem_head? first))
    closes := fun character last =>
      Bool.eq_false_iff.mp (solid character (List.mem_of_mem_getLast? last)) }
  exact bordered.trimWhile_eq fun _ => Iff.rfl

/-- Without borders nothing is taken away. -/
theorem trimWhile_eq_self (solid : ∀ character ∈ core, test character = false) :
    trimWhile test core = core := by
  have trimmed := @trimWhile_append test [] core [] nofun solid nofun
  rwa [List.nil_append, List.append_nil] at trimmed

/-! ## White space -/

/-- The code points of the Unicode property `White_Space`. -/
def whiteSpace : List Nat :=
  [0x9, 0xA, 0xB, 0xC, 0xD, 0x20, 0x85, 0xA0, 0x1680, 0x2000, 0x2001, 0x2002, 0x2003, 0x2004,
    0x2005, 0x2006, 0x2007, 0x2008, 0x2009, 0x200A, 0x2028, 0x2029, 0x202F, 0x205F, 0x3000]

theorem isBlank_iff (character : Char) :
    isBlank character = true ↔ character.toNat ∈ whiteSpace := by
  simp only [isBlank, blankRanges, whiteSpace, List.any_cons, List.any_nil, Bool.or_eq_true,
    Bool.and_eq_true, decide_eq_true_eq, List.mem_cons, List.not_mem_nil, or_false,
    Bool.false_eq_true]
  omega

end Rego.Text
