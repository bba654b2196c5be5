import Rego.Proofs.Builtin.Strings
import Rego.Proofs.Text.Blank
import Rego.Proofs.Text.Search

/-!
# Calls that trim

Calls that trim take their borders away as the passes over texts do (`gives_trim`,
`gives_trimSpace`), and calls on what is left go on from there. So the laws of the passes are laws
of the calls (`trimming_removes_borders`).
-/

namespace Rego.Builtin.Strings

set_option autoImplicit false

open Registry (Gives)

variable (characters : List Char) (cutset : String)

theorem text_toList (whole : String) : text whole.toList = .string whole := by
  rw [text, String.ofList_toList]

/-! ## Borders -/

/-- A computation from the characters of two strings, the first of which is given by its
characters. -/
theorem gives_onCharacters {name : String} (metadata : Metadata)
    (compute : List Char → List Char → Value)
    (found : Registry.standard.find? name = some (binary metadata (onTexts compute)))
    (fresh : Registry.isKept name metadata = false)
    (checked : Registry.check name metadata.declaration [text characters, .string cutset] =
      .ok ()) :
    Gives name [text characters, .string cutset] (compute characters cutset.toList) := by
  have given := gives_onTexts metadata compute found fresh checked
  rwa [String.toList_ofList] at given

theorem gives_trim : Gives "trim" [text characters, .string cutset]
    (text (Text.trimWhile cutset.toList.contains characters)) :=
  gives_onCharacters characters cutset Declared.trim
    (fun whole cutset => text (Text.trimWhile cutset.contains whole)) rfl (by decide)
    (Registry.check_ok rfl rfl)

theorem gives_trimLeft : Gives "trim_left" [text characters, .string cutset]
    (text (characters.dropWhile cutset.toList.contains)) :=
  gives_onCharacters characters cutset Declared.trimLeft
    (fun whole cutset => text (whole.dropWhile cutset.contains)) rfl (by decide)
    (Registry.check_ok rfl rfl)

theorem gives_trimRight : Gives "trim_right" [text characters, .string cutset]
    (text (Text.dropEndWhile cutset.toList.contains characters)) :=
  gives_onCharacters characters cutset Declared.trimRight
    (fun whole cutset => text (Text.dropEndWhile cutset.contains whole)) rfl (by decide)
    (Registry.check_ok rfl rfl)

theorem gives_trimSpace : Gives "trim_space" [text characters]
    (text (Text.trimWhile Text.isBlank characters)) := by
  have trimmed := @gives_onText "trim_space" Declared.trimSpace
    (fun whole => text (Text.trimWhile Text.isBlank whole)) rfl (by decide)
    (String.ofList characters) (Registry.check_ok rfl rfl)
  rwa [String.toList_ofList] at trimmed

/-- Without characters to trim everything is left. -/
theorem gives_trim_empty {name : String} (known : name ∈ ["trim", "trim_left", "trim_right"]) :
    Gives name [text characters, .string ""] (text characters) := by
  have solid : ∀ character ∈ characters, [].contains character = false := fun _ _ => rfl
  have left : characters.dropWhile [].contains = characters :=
    @Text.dropWhile_append Char [].contains [] characters (by simp) fun _ _ => rfl
  have right : Text.dropEndWhile [].contains characters = characters := by
    have dropped :=
      @Text.dropEndWhile_append Char [].contains characters [] (by simp) fun _ _ => rfl
    rwa [List.append_nil] at dropped
  simp only [List.mem_cons, List.not_mem_nil, or_false] at known
  rcases known with rfl | rfl | rfl
  · have trimmed := gives_trim characters ""
    rwa [String.toList_empty, Text.trimWhile_eq_self solid] at trimmed
  · have trimmed := gives_trimLeft characters ""
    rwa [String.toList_empty, left] at trimmed
  · have trimmed := gives_trimRight characters ""
    rwa [String.toList_empty, right] at trimmed

/-! ## Affixes -/

theorem gives_trimPrefix (whole piece : String) : Gives "trim_prefix"
    [.string whole, .string piece] (text (Text.dropPrefix piece.toList whole.toList)) :=
  gives_onTexts Declared.trimPrefix (fun whole piece => text (Text.dropPrefix piece whole)) rfl
    (by decide) (Registry.check_ok rfl rfl)

theorem gives_trimSuffix (whole piece : String) : Gives "trim_suffix"
    [.string whole, .string piece] (text (Text.dropSuffix piece.toList whole.toList)) :=
  gives_onTexts Declared.trimSuffix (fun whole piece => text (Text.dropSuffix piece whole)) rfl
    (by decide) (Registry.check_ok rfl rfl)

/-- **Trimming removes exactly the longest borders.** A string consists of two borders of characters
of the cutset and the core that trimming gives, which is empty or begins and ends with characters
outside the cutset; there is no other such core. Trimming both ends is trimming one after the other,
in either order, and trimming what has been trimmed changes nothing. Neither does trimming with an
empty cutset. White space is trimmed by the same law.

An affix is removed where it stands, and a string without it is left alone. -/
theorem trimming_removes_borders :
    (∀ whole cutset : String, ∃ left core right : List Char,
      Text.Bordered (· ∈ cutset.toList) whole.toList left core right ∧
      (∀ before other after : List Char,
        Text.Bordered (· ∈ cutset.toList) whole.toList before other after → other = core) ∧
      Gives "trim" [.string whole, .string cutset] (text core) ∧
      Gives "trim" [text core, .string cutset] (text core) ∧
      (∃ opened : String,
        Gives "trim_left" [.string whole, .string cutset] (.string opened) ∧
        Gives "trim_left" [.string opened, .string cutset] (.string opened) ∧
        Gives "trim_right" [.string opened, .string cutset] (text core)) ∧
      ∃ closed : String,
        Gives "trim_right" [.string whole, .string cutset] (.string closed) ∧
        Gives "trim_right" [.string closed, .string cutset] (.string closed) ∧
        Gives "trim_left" [.string closed, .string cutset] (text core)) ∧
    (∀ whole : String, ∀ name ∈ ["trim", "trim_left", "trim_right"],
      Gives name [.string whole, .string ""] (.string whole)) ∧
    (∀ whole : String, ∃ left core right : List Char,
      Text.Bordered (·.toNat ∈ Text.whiteSpace) whole.toList left core right ∧
      (∀ before other after : List Char,
        Text.Bordered (·.toNat ∈ Text.whiteSpace) whole.toList before other after →
          other = core) ∧
      Gives "trim_space" [.string whole] (text core) ∧
      Gives "trim_space" [text core] (text core)) ∧
    (∀ affix rest : String,
      Gives "trim_prefix" [.string (affix ++ rest), .string affix] (.string rest) ∧
      Gives "trim_suffix" [.string (rest ++ affix), .string affix] (.string rest)) ∧
    ∀ whole affix : String,
      (¬affix.toList <+: whole.toList →
        Gives "trim_prefix" [.string whole, .string affix] (.string whole)) ∧
      (¬affix.toList <:+ whole.toList →
        Gives "trim_suffix" [.string whole, .string affix] (.string whole)) := by
  refine ⟨?_, ?_, ?_, ?_, ?_⟩
  · intro whole cutset
    have agrees : ∀ character, cutset.toList.contains character = true ↔
        character ∈ cutset.toList := fun _ => List.contains_iff_mem
    obtain ⟨left, right, bordered⟩ := Text.bordered_trimWhile agrees whole.toList
    refine ⟨left, Text.trimWhile cutset.toList.contains whole.toList, right, bordered, ?_, ?_, ?_,
      ⟨String.ofList (whole.toList.dropWhile cutset.toList.contains), ?_, ?_, ?_⟩,
      ⟨String.ofList (Text.dropEndWhile cutset.toList.contains whole.toList), ?_, ?_, ?_⟩⟩
    · exact fun before other after borders => (borders.trimWhile_eq agrees).symm
    · exact text_toList whole ▸ gives_trim whole.toList cutset
    · have again := gives_trim (Text.trimWhile cutset.toList.contains whole.toList) cutset
      rwa [Text.trimWhile_trimWhile] at again
    · exact text_toList whole ▸ gives_trimLeft whole.toList cutset
    · have again := gives_trimLeft (whole.toList.dropWhile cutset.toList.contains) cutset
      rwa [List.dropWhile_idempotent] at again
    · exact gives_trimRight (whole.toList.dropWhile cutset.toList.contains) cutset
    · exact text_toList whole ▸ gives_trimRight whole.toList cutset
    · have again :=
        gives_trimRight (Text.dropEndWhile cutset.toList.contains whole.toList) cutset
      rwa [Text.dropEndWhile_dropEndWhile] at again
    · have other := gives_trimLeft (Text.dropEndWhile cutset.toList.contains whole.toList) cutset
      rwa [Text.dropWhile_dropEndWhile] at other
  · exact fun whole name known => text_toList whole ▸ gives_trim_empty whole.toList known
  · intro whole
    obtain ⟨left, right, bordered⟩ := Text.bordered_trimWhile Text.isBlank_iff whole.toList
    refine ⟨left, Text.trimWhile Text.isBlank whole.toList, right, bordered, ?_, ?_, ?_⟩
    · exact fun before other after borders => (borders.trimWhile_eq Text.isBlank_iff).symm
    · exact text_toList whole ▸ gives_trimSpace whole.toList
    · have again := gives_trimSpace (Text.trimWhile Text.isBlank whole.toList)
      rwa [Text.trimWhile_trimWhile] at again
  · intro affix rest
    have front := gives_trimPrefix (affix ++ rest) affix
    have back := gives_trimSuffix (rest ++ affix) affix
    rw [String.toList_append, Text.dropPrefix_append, text_toList] at front
    rw [String.toList_append, Text.dropSuffix_append, text_toList] at back
    exact ⟨front, back⟩
  · intro whole affix
    constructor
    · intro absent
      have kept := gives_trimPrefix whole affix
      rwa [Text.dropPrefix_of_not_prefix absent, text_toList] at kept
    · intro absent
      have kept := gives_trimSuffix whole affix
      rwa [Text.dropSuffix_of_not_suffix absent, text_toList] at kept

/-- A string of nothing but characters of the cutset has an empty core, and an affix that is not
there stays away. -/
theorem trimming_removes_borders_all :
    (∃ left core right : List Char,
      Text.Bordered (· ∈ "yxx".toList) "xyx".toList left core right ∧
      Gives "trim" [.string "xyx", .string "yxx"] (text core) ∧ core = []) ∧
    ("trim_left" ∈ ["trim", "trim_left", "trim_right"] ∧
      Gives "trim_left" [.string " é", .string ""] (.string " é")) ∧
    (¬"é".toList <+: "aé".toList ∧
      Gives "trim_prefix" [.string "aé", .string "é"] (.string "aé")) ∧
    ¬"a".toList <:+ "aé".toList ∧
      Gives "trim_suffix" [.string "aé", .string "a"] (.string "aé") := by
  obtain ⟨borders, empty, _, _, affixes⟩ := trimming_removes_borders
  refine ⟨?_, ⟨by decide, empty " é" "trim_left" (by decide)⟩,
    ⟨by decide, (affixes "aé" "é").1 (by decide)⟩, by decide, (affixes "aé" "a").2 (by decide)⟩
  obtain ⟨left, core, right, bordered, only, trims, _⟩ := borders "xyx" "yxx"
  have nothing : Text.Bordered (· ∈ "yxx".toList) "xyx".toList "xyx".toList [] [] :=
    ⟨rfl, by simp, by simp, by simp, by simp⟩
  exact ⟨left, core, right, bordered, trims, (only _ _ _ nothing).symm⟩

end Rego.Builtin.Strings
