import Rego.Proofs.Builtin.Calls
import Rego.Proofs.Builtin.Outcomes
import Rego.Proofs.Builtin.Words

/-!
# Calls on strings

What calls of the builtins on strings come to when their arguments are of the declared kinds. Those
that compute from the characters of their arguments give what they compute (`gives_onText`,
`gives_onTexts`), and so do searches, unless the piece to search for is empty (`gives_search`,
`fails_search`).
-/

namespace Rego.Builtin.Strings

set_option autoImplicit false

open Argument (IsWord)
open Registry (Gives Fails)

variable {name : String} (metadata : Metadata)

/-! ## Computations from characters -/

theorem gives_onText (compute : List Char → Value)
    (found : Registry.standard.find? name = some (unary metadata (onText compute)))
    (fresh : Registry.isKept name metadata = false) {whole : String}
    (checked : Registry.check name metadata.declaration [.string whole] = .ok ()) :
    Gives name [.string whole] (compute whole.toList) :=
  Registry.gives_of_run found fresh checked rfl

theorem gives_onTexts (compute : List Char → List Char → Value)
    (found : Registry.standard.find? name = some (binary metadata (onTexts compute)))
    (fresh : Registry.isKept name metadata = false) {first second : String}
    (checked : Registry.check name metadata.declaration [.string first, .string second] = .ok ()) :
    Gives name [.string first, .string second] (compute first.toList second.toList) :=
  Registry.gives_of_run found fresh checked rfl

theorem gives_contains (whole piece : String) :
    Gives "contains" [.string whole, .string piece]
      (.bool (Text.contains piece.toList whole.toList)) :=
  gives_onTexts Declared.contains (fun whole piece => .bool (Text.contains piece whole)) rfl
    (by decide) (Registry.check_ok rfl rfl)

theorem gives_startswith (whole piece : String) :
    Gives "startswith" [.string whole, .string piece]
      (.bool (Text.startsWith piece.toList whole.toList)) :=
  gives_onTexts Declared.startswith (fun whole piece => .bool (Text.startsWith piece whole)) rfl
    (by decide) (Registry.check_ok rfl rfl)

theorem gives_endswith (whole piece : String) :
    Gives "endswith" [.string whole, .string piece]
      (.bool (Text.endsWith piece.toList whole.toList)) :=
  gives_onTexts Declared.endswith (fun whole piece => .bool (Text.endsWith piece whole)) rfl
    (by decide) (Registry.check_ok rfl rfl)

/-! ## Searches -/

theorem gives_search (compute : List Char → List Char → Value)
    (found : Registry.standard.find? name = some (binary metadata (search compute)))
    (fresh : Registry.isKept name metadata = false) {whole piece : String}
    (checked : Registry.check name metadata.declaration [.string whole, .string piece] = .ok ())
    (inhabited : piece ≠ "") :
    Gives name [.string whole, .string piece] (compute whole.toList piece.toList) := by
  refine Registry.gives_of_run found fresh checked ?_
  have some : ¬piece.toList.isEmpty = true := by simpa using inhabited
  exact if_neg some

/-- A search for the empty piece fails. -/
theorem fails_search (compute : List Char → List Char → Value)
    (found : Registry.standard.find? name = some (binary metadata (search compute)))
    (fresh : Registry.isKept name metadata = false) (named : metadata.name = name) {whole : String}
    (checked : Registry.check name metadata.declaration [.string whole, .string ""] = .ok ()) :
    Fails name [.string whole, .string ""] .emptySearch := by
  refine Registry.fails_of_run found fresh checked ?_
  rw [← named]
  rfl

/-! ## Joining and replacing -/

theorem admits_strings (label : String) (text : Option String) (texts : List String) :
    (Ty.named label text (.any [.set (some .string), .array [] (some .string)])).admits
      (.array (texts.map .string)) = true := by
  rw [Ty.admits]
  refine Ty.admits_any_of_mem ?_ (List.mem_cons_of_mem _ List.mem_cons_self)
  rw [Ty.admits_arrayOf, List.all_map]
  exact List.all_eq_true.mpr fun _ _ => rfl

theorem stringsFrom_map (index : Nat) (texts : List String) :
    Argument.stringsFrom name index (texts.map .string) = .ok texts := by
  induction texts generalizing index with
  | nil => rfl
  | cons text rest ih =>
      rw [List.map_cons, Argument.stringsFrom, ih]
      rfl

theorem gives_concat (delimiter : String) (texts : List String) :
    Gives "concat" [.string delimiter, .array (texts.map .string)]
      (text (Text.join delimiter.toList (texts.map String.toList))) := by
  have found : Registry.standard.find? "concat" = some (binary Declared.concat concat) := rfl
  have checked : Registry.check "concat" Declared.concat.declaration
      [.string delimiter, .array (texts.map .string)] = .ok () := by
    refine Registry.check_ok rfl ?_
    have delimits : ∀ (label : String) (text : Option String),
        (Ty.named label text .string).admits (.string delimiter) = true := fun _ _ => rfl
    simp [Registry.misfit?, Signature.argument?, Declared.concat, admits_strings, delimits]
  refine Registry.gives_of_run found (by decide) checked ?_
  change concat Declared.concat.name (.string delimiter) (.array (texts.map .string)) = _
  simp only [concat, Argument.string, Argument.strings, stringsFrom_map, bind, Except.bind, pure,
    Except.pure]

theorem gives_replace (whole piece replacement : String) :
    Gives "replace" [.string whole, .string piece, .string replacement]
      (text (Text.replace piece.toList replacement.toList whole.toList)) := by
  have found : Registry.standard.find? "replace" = some (ternary Declared.replace replace) := rfl
  exact Registry.gives_of_run found (by decide) (Registry.check_ok rfl rfl) rfl

/-! ## Portions -/

section Portions

variable {whole : String} {offset length : Number}

theorem find?_substring : Registry.standard.find? "substring" =
    some (ternary Declared.substring substring) := rfl

theorem gives_substring {first count : Int} (one : IsWord (.number offset) first)
    (two : IsWord (.number length) count) :
    Gives "substring" [.string whole, .number offset, .number length]
      (text (portion whole.toList first count)) := by
  refine Registry.gives_of_run find?_substring (by decide) (Registry.check_ok rfl rfl) ?_
  change (Argument.integer "substring" (.number offset) >>= fun first =>
    Argument.integer "substring" (.number length) >>= fun count =>
      .ok (text (portion whole.toList first count))) = _
  rw [Argument.integer_of_isWord one, Argument.integer_of_isWord two]
  rfl

/-- A portion is given at word offsets and with word lengths only. -/
theorem fails_substring
    (other : ∃ number ∈ [offset, length], ∀ whole, ¬IsWord (.number number) whole) :
    ∃ cause, Fails "substring" [.string whole, .number offset, .number length] cause := by
  refine Registry.exists_fails_of_run find?_substring (by decide) rfl ?_
  refine Argument.integer_bind_fails fun first one =>
    Argument.integer_bind_fails fun count two => ?_
  obtain ⟨number, member, none⟩ := other
  simp only [List.mem_cons, List.not_mem_nil, or_false] at member
  rcases member with rfl | rfl
  · exact absurd one (none first)
  · exact absurd two (none count)

end Portions

/-! ## Counting -/

theorem gives_count_array (items : List Value) :
    Gives "count" [.array items] (.ofNat items.length) := by
  have found : Registry.standard.find? "count" = some (unary Declared.count Collections.count) :=
    rfl
  have checked : Registry.check "count" Declared.count.declaration [.array items] = .ok () := by
    refine Registry.check_ok rfl ?_
    have array : (Ty.any [.set (some (.any [])), .array [] (some (.any [])),
        .object [] (some (.any [], .any [])), .string]).admits (.array items) = true :=
      Ty.admits_any_of_mem (Ty.admits_arrayOfAny items)
        (List.mem_cons_of_mem _ List.mem_cons_self)
    have named : ∀ (label : String) (text : Option String),
        (Ty.named label text (.any [.set (some (.any [])), .array [] (some (.any [])),
          .object [] (some (.any [], .any [])), .string])).admits (.array items) = true := by
      intro label text
      rw [Ty.admits]
      exact array
    simp [Registry.misfit?, Signature.argument?, Declared.count, named]
  exact Registry.gives_of_run found (by decide) checked rfl

theorem gives_count_string (whole : String) :
    Gives "count" [.string whole] (.ofNat whole.length) := by
  have found : Registry.standard.find? "count" = some (unary Declared.count Collections.count) :=
    rfl
  exact Registry.gives_of_run found (by decide) (Registry.check_ok rfl rfl) rfl

theorem gives_stringsCount (whole piece : String) :
    Gives "strings.count" [.string whole, .string piece]
      (.ofNat (Text.occurrences piece.toList whole.toList)) :=
  gives_onTexts Declared.stringsCount (fun whole piece => .ofNat (Text.occurrences piece whole)) rfl
    (by decide) (Registry.check_ok rfl rfl)

end Rego.Builtin.Strings
