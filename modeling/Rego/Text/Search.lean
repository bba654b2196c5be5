/-!
# Finding and splitting

Occurrences of a piece of text in a text.  `cut?` splits at the leftmost occurrence; splitting,
counting and replacing each repeat it on what follows, and so go through occurrences that do not
overlap.

The place of an occurrence is first found as a byte offset in UTF-8 (`find?`) and then counted in
characters (`charactersBefore`).  `positions` lists every occurrence, overlapping ones included.
-/

namespace Rego.Text

set_option autoImplicit false

/-- What follows a prefix. -/
def afterPrefix? : List Char → List Char → Option (List Char)
  | [], text => some text
  | _ :: _, [] => none
  | expected :: rest, character :: text =>
    if expected = character then afterPrefix? rest text else none

/-- Whether a text starts with another. -/
def startsWith (piece text : List Char) : Bool := (afterPrefix? piece text).isSome

/-- Whether a text ends with another. -/
def endsWith (piece text : List Char) : Bool := startsWith piece.reverse text.reverse

/-- A text without a prefix, if it has it. -/
def dropPrefix (piece text : List Char) : List Char := (afterPrefix? piece text).getD text

/-- A text without a suffix, if it has it. -/
def dropSuffix (piece text : List Char) : List Char :=
  match afterPrefix? piece.reverse text.reverse with
  | some rest => rest.reverse
  | none => text

/-- Splits a text around the leftmost occurrence of a piece. -/
def cut? (piece : List Char) : List Char → Option (List Char × List Char)
  | [] => (afterPrefix? piece []).map fun rest => ([], rest)
  | character :: text =>
    match afterPrefix? piece (character :: text) with
    | some rest => some ([], rest)
    | none => (cut? piece text).map fun (before, after) => (character :: before, after)

/-- What follows a prefix is shorter by the length of the prefix. -/
theorem length_of_afterPrefix? {piece text rest : List Char}
    (found : afterPrefix? piece text = some rest) : rest.length + piece.length = text.length := by
  induction piece generalizing text with
  | nil =>
    simp only [afterPrefix?, Option.some.injEq] at found
    simp [found]
  | cons expected piece ih =>
    cases text with
    | nil => simp [afterPrefix?] at found
    | cons character text =>
      simp only [afterPrefix?] at found
      split at found
      · have := ih found
        simp only [List.length_cons]
        omega
      · exact absurd found (by simp)

/-- What follows an occurrence is shorter than the text by at least the length of the piece. -/
theorem length_of_cut? {piece text : List Char} :
    ∀ {before after : List Char}, cut? piece text = some (before, after) →
      after.length + piece.length ≤ text.length := by
  induction text with
  | nil =>
    intro before after found
    cases here : afterPrefix? piece [] with
    | none => simp [cut?, here] at found
    | some rest =>
      simp only [cut?, here, Option.map_some, Option.some.injEq, Prod.mk.injEq] at found
      have := length_of_afterPrefix? here
      rw [← found.2]
      omega
  | cons character text ih =>
    intro before after found
    cases here : afterPrefix? piece (character :: text) with
    | some rest =>
      simp only [cut?, here, Option.some.injEq, Prod.mk.injEq] at found
      have := length_of_afterPrefix? here
      rw [← found.2]
      omega
    | none =>
      cases later : cut? piece text with
      | none => simp [cut?, here, later] at found
      | some pair =>
        simp only [cut?, here, later, Option.map_some, Option.some.injEq, Prod.mk.injEq] at found
        have : pair.2.length + piece.length ≤ text.length := ih later
        rw [← found.2]
        simp only [List.length_cons]
        omega

/-- What follows an occurrence of a piece that is not empty is shorter than the text. -/
theorem length_lt_of_cut? {piece text before after : List Char} (inhabited : ¬piece.isEmpty)
    (found : cut? piece text = some (before, after)) : after.length < text.length := by
  have bound := length_of_cut? found
  cases piece with
  | nil => exact absurd rfl inhabited
  | cons _ _ =>
    rw [List.length_cons] at bound
    omega

/-! ## Parts -/

/-- The parts of a text between the occurrences of a piece that is not empty. -/
def parts (piece text : List Char) : List (List Char) :=
  if piece.isEmpty then [text]
  else
    match found : cut? piece text with
    | none => [text]
    | some (before, after) =>
      have _shorter := length_of_cut? found
      before :: parts piece after
termination_by text.length
decreasing_by
  have : piece.length ≠ 0 := by
    cases piece with
    | nil => simp_all
    | cons _ _ => simp
  omega

/-- Joins texts with a separator between them. -/
def join (separator : List Char) : List (List Char) → List Char
  | [] => []
  | [text] => text
  | text :: rest => text ++ separator ++ join separator rest

/-- Splits a text at every occurrence of a delimiter; the empty delimiter splits it into its
characters. -/
def split (delimiter text : List Char) : List (List Char) :=
  if delimiter.isEmpty then text.map fun character => [character] else parts delimiter text

/-- How often a piece occurs without overlaps; the empty piece occurs around every character. -/
def occurrences (piece text : List Char) : Nat :=
  if inhabited : piece.isEmpty then text.length + 1
  else
    match found : cut? piece text with
    | none => 0
    | some (_, after) =>
      have _shorter := length_lt_of_cut? inhabited found
      occurrences piece after + 1
termination_by text.length

/-- Replaces every occurrence of a piece; the empty piece occurs around every character. -/
def replace (piece replacement text : List Char) : List Char :=
  if inhabited : piece.isEmpty then
    replacement ++ text.flatMap fun character => character :: replacement
  else
    match found : cut? piece text with
    | none => text
    | some (before, after) =>
      have _shorter := length_lt_of_cut? inhabited found
      before ++ replacement ++ replace piece replacement after
termination_by text.length

/-- Whether a piece occurs in a text. -/
def contains (piece text : List Char) : Bool := (cut? piece text).isSome

/-! ## Places -/

/-- The number of bytes that a text takes. -/
def byteSize : List Char → Nat
  | [] => 0
  | character :: rest => character.utf8Size + byteSize rest

/-- The byte offset of the leftmost occurrence of a piece. -/
def find? (piece text : List Char) : Option Nat :=
  (cut? piece text).map fun (before, _) => byteSize before

/-- A text from a byte offset on. -/
def fromByte : Nat → List Char → List Char
  | 0, text => text
  | _ + 1, [] => []
  | offset + 1, character :: text => fromByte (offset + 1 - character.utf8Size) text

/-- The number of characters that start before a byte offset. -/
def charactersBefore : Nat → List Char → Nat
  | 0, _ => 0
  | _ + 1, [] => 0
  | offset + 1, character :: text =>
    charactersBefore (offset + 1 - character.utf8Size) text + 1

/-- A byte offset at which a character starts is inside the text. -/
theorem lt_byteSize_of_fromByte {offset : Nat} {text rest : List Char} {character : Char}
    (here : fromByte offset text = character :: rest) : offset < byteSize text := by
  induction text generalizing offset with
  | nil => cases offset <;> cases here
  | cons first text ih =>
    rw [byteSize]
    cases offset with
    | zero =>
      have := first.utf8Size_pos
      omega
    | succ offset =>
      have := ih here
      omega

/-- The positions at which a piece occurs from a byte offset on.  Occurrences may overlap, so the
search goes on one character after the start of each. -/
def positionsFrom (piece text : List Char) (start : Nat) : List Nat :=
  match find? piece (fromByte start text) with
  | none => []
  | some offset =>
    charactersBefore (start + offset) text ::
      match here : fromByte (start + offset) text with
      | [] => []
      | character :: _ =>
        have _inside := lt_byteSize_of_fromByte here
        have _forward := character.utf8Size_pos
        positionsFrom piece text (start + offset + character.utf8Size)
termination_by byteSize text - start

/-- The positions at which a piece occurs. -/
def positions (piece text : List Char) : List Nat := positionsFrom piece text 0

/-- The position at which a piece occurs first. -/
def position? (piece text : List Char) : Option Nat :=
  (find? piece text).map fun offset => charactersBefore offset text

end Rego.Text
