import Rego.Proofs.Format.Composition
import Rego.Proofs.Number.Literal
import Rego.Proofs.Number.Text
import Rego.Proofs.Number.Whole
import Rego.Proofs.Text.Radix

/-!
# Padded integers

Under the verb for integers a directive writes a sign or none and the digits, and fills this up to
its width: with spaces after it, with spaces in front of it, or with zeros. Whatever the text, the
length is then the larger of the width and the length of the text (`length_pad`), and apart from the
spaces nothing is added but zeros (`exists_pad_eq`).

Zeros between the sign and the digits do not change what is read (`ofText_filled`). They stand there
behind a minus sign only. In front of a plus sign that the directive asks for they make a text that
is no literal (`ofText_misplaced`). So a padded integer reads back as the integer in all cases but
this one (`padding_keeps_integers`).
-/

namespace Rego

set_option autoImplicit false

namespace Format

/-- The sign that is written in front of the digits of an integer. -/
def signOf (plus : Bool) (whole : Int) : List Char :=
  if whole < 0 then ['-'] else if plus then ['+'] else []

/-- The text of an integer before it is padded. -/
def signedText (plus : Bool) (whole : Int) : List Char :=
  signOf plus whole ++ Radix.digits 10 whole.natAbs

/-- The number of characters that a directive asks for. -/
def Directive.size (directive : Directive) : Nat := directive.width.getD 0

/-- How many zeros a directive adds to a text. -/
def Directive.zeros (directive : Directive) (text : List Char) : Nat :=
  if directive.zero && !directive.minus then directive.size - text.length else 0

/-- A text with zeros in front of it, but after a minus sign. -/
def filled (zeros : Nat) : List Char → List Char
  | '-' :: digits => '-' :: (List.replicate zeros '0' ++ digits)
  | digits => List.replicate zeros '0' ++ digits

/-! ## Signs -/

theorem spellsSign_signOf (plus : Bool) (whole : Int) :
    NumberLiteral.SpellsSign (signOf plus whole) (whole < 0) := by
  unfold signOf
  split
  · next below => rw [decide_eq_true below]; exact .minus
  · next above =>
      rw [decide_eq_false above]
      cases plus with
      | true => exact .plus
      | false => exact .absent

theorem sign_integerText (directive : Directive) (whole : Int) :
    sign directive (Radix.integerText 10 whole) = signedText directive.plus whole := by
  have opens : (Radix.integerText 10 whole).head? = some '-' ↔ whole < 0 :=
    (Radix.spells_integerText (by decide) (by decide) whole).head?_eq_minus_iff
  unfold sign signedText signOf
  by_cases below : whole < 0
  · rw [opens.mpr below, if_pos below, Radix.integerText, if_pos below]
    simp
  · have unsigned : ((Radix.integerText 10 whole).head? != some '-') = true :=
      bne_iff_ne.mpr (mt opens.mp below)
    rw [unsigned, if_neg below, Radix.integerText, if_neg below, Bool.and_true]
    split <;> rfl

/-! ## Padding -/

/-- **A padded text has the length of the width**, unless it was longer before. -/
theorem length_pad (directive : Directive) (numeric : Bool) (text : List Char) :
    (pad directive numeric text).length = max directive.size text.length := by
  unfold pad Directive.size
  cases directive.width with
  | none => exact (Nat.zero_max _).symm
  | some width =>
      dsimp only [Option.getD_some]
      split
      · rw [List.length_append, List.length_replicate]; omega
      · split
        · split
          · rw [List.length_cons, List.length_append, List.length_replicate, List.length_cons]
            omega
          · rw [List.length_append, List.length_replicate]; omega
        · rw [List.length_append, List.length_replicate]; omega

/-- Spaces only. -/
def Spaces (characters : List Char) : Prop := ∀ character ∈ characters, (character == ' ') = true

theorem spaces_nil : Spaces [] := List.forall_mem_nil _

theorem spaces_replicate (count : Nat) : Spaces (List.replicate count ' ') :=
  fun _ member => beq_iff_eq.mpr (List.eq_of_mem_replicate member)

theorem filled_zero (text : List Char) : filled 0 text = text := by
  unfold filled
  split <;> rfl

theorem filled_of_unsigned {text : List Char} (unsigned : text.head? ≠ some '-') (zeros : Nat) :
    filled zeros text = List.replicate zeros '0' ++ text := by
  unfold filled
  split
  · exact absurd rfl unsigned
  · rfl

/-- **Apart from spaces around it, a number only gets zeros.** -/
theorem exists_pad_eq (directive : Directive) (text : List Char) :
    ∃ before after, Spaces before ∧ Spaces after ∧
      pad directive true text = before ++ filled (directive.zeros text) text ++ after := by
  unfold pad Directive.zeros Directive.size
  cases directive.width with
  | none =>
      rw [Option.getD_none, Nat.zero_sub, ite_self, filled_zero]
      exact ⟨[], [], spaces_nil, spaces_nil, (List.append_nil _).symm⟩
  | some width =>
      dsimp only [Option.getD_some]
      cases minus : directive.minus with
      | true =>
          simp only [Bool.not_true, Bool.and_false, Bool.false_eq_true, if_false, if_true,
            filled_zero]
          exact ⟨[], _, spaces_nil, spaces_replicate _, rfl⟩
      | false =>
          cases directive.zero with
          | true => exact ⟨[], [], spaces_nil, spaces_nil, (List.append_nil _).symm⟩
          | false =>
              simp only [Bool.false_and, Bool.false_eq_true, if_false, filled_zero]
              exact ⟨_, [], spaces_replicate _, spaces_nil, (List.append_nil _).symm⟩

/-! ## Reading padded integers -/

/-- A sign, zeros and digits are the integer of the sign and the digits. -/
theorem spells_filled {sign : List Char} {negative : Bool}
    (spells : NumberLiteral.SpellsSign sign negative) (zeros number : Nat) :
    NumberLiteral.Spells (sign ++ (List.replicate zeros '0' ++ Radix.digits 10 number))
      ⟨negative, List.replicate zeros '0' ++ Radix.digits 10 number, [], 0⟩ := by
  have digits : NumberLiteral.Digits (List.replicate zeros '0' ++ Radix.digits 10 number) := by
    intro character member
    rcases List.mem_append.mp member with zero | digit
    · rw [List.eq_of_mem_replicate zero]
      rfl
    · exact Radix.isDecimalDigit_of_mem_digits number character digit
  have inhabited : List.replicate zeros '0' ++ Radix.digits 10 number ≠ [] :=
    List.append_ne_nil_of_right_ne_nil _ (Radix.digits_ne_nil number)
  have parts := NumberLiteral.Spells.parts spells (.whole inhabited digits) .absent
  rwa [List.append_nil] at parts

theorem ofText_filled {sign : List Char} {negative : Bool}
    (spells : NumberLiteral.SpellsSign sign negative) (zeros number : Nat) :
    Number.ofText (String.ofList (sign ++ (List.replicate zeros '0' ++ Radix.digits 10 number))) =
      .ok (.ofInt (Double.signed negative number)) := by
  have written := (spells_filled spells zeros number).written
  rw [← String.toList_ofList
    (l := sign ++ (List.replicate zeros '0' ++ Radix.digits 10 number))] at written
  have fits : Number.FitsWord (NumberLiteral.shift ⟨negative,
      List.replicate zeros '0' ++ Radix.digits 10 number, [], 0⟩) :=
    (by decide : Number.FitsWord 0)
  rw [Number.ofText_of_written written, if_pos fits, NumberLiteral.value_whole,
    Radix.decimalValue_append, Radix.decimalValue_zeros, Radix.decimalValue_digits, Nat.zero_mul,
    Nat.zero_add]

theorem ofText_misplaced {zeros : Nat} (some : 0 < zeros) (number : Nat) :
    Number.ofText (String.ofList (List.replicate zeros '0' ++ '+' :: Radix.digits 10 number)) =
      .error .malformed := by
  have inhabited : List.replicate zeros '0' ≠ [] := by
    rw [Ne, List.replicate_eq_nil_iff]
    exact Nat.ne_of_gt some
  have leading : NumberLiteral.Digits (List.replicate zeros '0') := fun _ member => by
    rw [List.eq_of_mem_replicate member]
    rfl
  have unread := NumberLiteral.read?_plus inhabited leading
    (Radix.isDecimalDigit_of_mem_digits number)
  unfold Number.ofText
  rw [String.toList_ofList, unread]

/-- The zeros of an integer stand in front of a plus sign, but after a minus sign. -/
theorem filled_signedText (zeros : Nat) (plus : Bool) (whole : Int) :
    filled zeros (signedText plus whole) =
      if plus = true ∧ 0 ≤ whole then
        List.replicate zeros '0' ++ '+' :: Radix.digits 10 whole.natAbs
      else signOf plus whole ++ (List.replicate zeros '0' ++ Radix.digits 10 whole.natAbs) := by
  unfold signedText signOf
  by_cases below : whole < 0
  · rw [if_pos below, if_neg fun both => absurd both.2 (Int.not_le.mpr below)]
    rfl
  · rw [if_neg below]
    cases plus with
    | true => exact (if_pos ⟨rfl, Int.not_lt.mp below⟩).symm
    | false =>
        have unsigned : (Radix.digits 10 whole.natAbs).head? ≠ some '-' := by
          intro first
          have digit := Radix.isDecimalDigit_of_mem_digits _ _ (List.mem_of_mem_head? first)
          exact absurd digit (by decide)
        simp only [Bool.false_eq_true, false_and, if_false, List.nil_append,
          filled_of_unsigned unsigned]

/-- **What an integer with zeros added is read as:** the integer, unless the zeros stand in front of
a plus sign. -/
theorem ofText_filled_signedText (zeros : Nat) (plus : Bool) (whole : Int) :
    Number.ofText (String.ofList (filled zeros (signedText plus whole))) =
      if 0 < zeros ∧ plus = true ∧ 0 ≤ whole then .error .malformed else .ok (.ofInt whole) := by
  have spells := spellsSign_signOf plus whole
  rw [filled_signedText]
  by_cases plain : plus = true ∧ 0 ≤ whole
  · rw [if_pos plain]
    rcases Nat.eq_zero_or_pos zeros with rfl | some
    · have read := ofText_filled .plus 0 whole.natAbs
      have same : Double.signed false whole.natAbs = whole := Int.natAbs_of_nonneg plain.2
      rw [if_neg fun both => absurd both.1 (Nat.lt_irrefl 0), ← same]
      exact read
    · rw [if_pos ⟨some, plain⟩, ofText_misplaced some]
  · rw [if_neg plain, if_neg fun both => plain both.2, ofText_filled spells, Number.signed_natAbs]

/-- No white space stands in an integer with zeros added. -/
theorem solid_filled_signedText (zeros : Nat) (plus : Bool) (whole : Int) :
    ∀ character ∈ filled zeros (signedText plus whole), Text.isBlank character = false := by
  intro character member
  rw [filled_signedText] at member
  split at member
  · rw [List.mem_append, List.mem_cons] at member
    rcases member with zero | rfl | digit
    · rw [List.eq_of_mem_replicate zero]
      decide
    · decide
    · exact NumberLiteral.isBlank_of_digit (Radix.isDecimalDigit_of_mem_digits _ _ digit)
  · exact (spells_filled (spellsSign_signOf plus whole) zeros whole.natAbs).solid character member

/-! ## Directives for integers -/

/-- The characters of a width. -/
def widthText (width : Option Nat) : List Char := width.elim [] (Radix.digits 10)

/-- The width that is kept: one that is no machine word is none. -/
def keptWidth (width : Option Nat) : Nat :=
  width.elim 0 fun size => if size < 2 ^ 64 then size else 0

/-- The format string of one directive for an integer. -/
def integerFormat (flags : List Char) (width : Option Nat) : List Char :=
  '%' :: (flags ++ widthText width ++ ['d'])

theorem flagged_empty (flags : List Char) :
    (Directive.empty.flagged flags).minus = flags.contains '-' ∧
      (Directive.empty.flagged flags).plus = flags.contains '+' ∧
      (Directive.empty.flagged flags).zero = flags.contains '0' :=
  ⟨Bool.false_or _, Bool.false_or _, Bool.false_or _⟩

/-- The directive that flags and a width spell. A width of zero is read as one more flag, but then
there is nothing to fill up. -/
theorem exists_directive {flags : List Char} (flagged : ∀ flag ∈ flags, flag ∈ ['-', '+', '0'])
    (width : Option Nat) :
    ∃ directive, Spells (flags ++ widthText width) directive ∧
      directive.minus = flags.contains '-' ∧ directive.plus = flags.contains '+' ∧
      directive.size = keptWidth width ∧
      (0 < keptWidth width → directive.zero = flags.contains '0') := by
  have are : ∀ flag ∈ flags, flag ∈ flagCharacters := by
    intro flag member
    have one := flagged flag member
    simp only [List.mem_cons, List.not_mem_nil, or_false] at one
    rcases one with rfl | rfl | rfl <;> decide
  cases width with
  | none =>
      have spells := @Spells.parts flags [] [] none are (List.forall_mem_nil _)
        (by decide) .absent
      rw [List.append_nil] at spells
      obtain ⟨minus, plus, zero⟩ := flagged_empty flags
      exact ⟨_, spells, minus, plus, rfl, fun _ => zero⟩
  | some size =>
      rcases Nat.eq_zero_or_pos size with rfl | positive
      · have zero : widthText (some 0) = ['0'] := Radix.digits_of_lt (by decide)
        have extended : ∀ flag ∈ flags ++ ['0'], flag ∈ flagCharacters := by
          intro flag member
          rcases List.mem_append.mp member with first | last
          · exact are flag first
          · rw [List.mem_singleton.mp last]; decide
        have spells := @Spells.parts (flags ++ ['0']) [] [] none extended (List.forall_mem_nil _)
          (by decide) .absent
        rw [List.append_nil, List.append_nil] at spells
        rw [zero]
        obtain ⟨minus, plus, _⟩ := flagged_empty (flags ++ ['0'])
        exact ⟨_, spells, by rw [minus]; simp, by rw [plus]; simp, rfl,
          fun positive => absurd positive (Nat.lt_irrefl 0)⟩
      · have leading : (Radix.digits 10 size).head? ≠ some '0' := fun first =>
          Nat.ne_of_gt positive (Radix.eq_zero_of_head?_digits first)
        have spells := Spells.parts are (Radix.isDecimalDigit_of_mem_digits size) leading .absent
        rw [List.append_nil] at spells
        have kept : (sizeOf? (Radix.digits 10 size)).getD 0 = keptWidth (some size) := by
          simp only [sizeOf?, Radix.decimalValue_digits, Radix.digits_ne_nil, ne_eq,
            not_false_eq_true, true_and, keptWidth, Option.elim_some]
          split <;> rfl
        obtain ⟨minus, plus, zero⟩ := flagged_empty flags
        exact ⟨_, spells, minus, plus, kept, fun _ => zero⟩

section Alone

variable {characters : List Char} {directive : Directive} {verb : Char}
  (spells : Spells characters directive) (verbal : IsVerb verb) (named : verb ≠ '%')

include spells verbal named

theorem pieces_verb : pieces ('%' :: (characters ++ [verb])) = [.verb directive verb] := by
  rw [pieces_directive spells verbal, finish, if_neg named]

/-- The text of one directive with its argument. -/
theorem render_directive (argument : Value) :
    render ('%' :: (characters ++ [verb])) [argument] = verbText directive verb argument := by
  have read := pieces_verb spells verbal named
  have enough : [argument].length ≤ verbs ('%' :: (characters ++ [verb])) := by
    rw [verbs, read]
    rfl
  rw [render_eq, if_pos (isComplete_directive spells verbal), if_pos enough, read]
  simp [texts]

/-- What one directive asks too much of for its argument. -/
theorem excess?_directive (argument : Value) :
    excess? ('%' :: (characters ++ [verb])) [argument] = directive.excess? verb argument := by
  change fillExcess? (pieces _) _ = _
  rw [pieces_verb spells verbal named, fillExcess?]
  exact Option.or_none

end Alone

/-- An integer is filled up like a number, with its sign in front of the digits. -/
theorem fitted?_integer (directive : Directive) {number : Number} {whole : Int}
    (integral : number.toInt? = some whole) :
    fitted? directive 'd' (.number number) =
      some (pad directive true (signedText directive.plus whole)) := by
  have digits : integerDigits? 10 number = some (Radix.integerText 10 whole) := by
    rw [integerDigits?, integral]
    rfl
  simp only [fitted?, digits, Option.map_some, sign_integerText]

/-- **What an integer is written as** under one directive. -/
theorem render_integer {flags : List Char} {width : Option Nat} {directive : Directive}
    (spells : Spells (flags ++ widthText width) directive) {number : Number} {whole : Int}
    (integral : number.toInt? = some whole) :
    render (integerFormat flags width) [.number number] =
      pad directive true (signedText directive.plus whole) := by
  rw [integerFormat, render_directive spells (by decide) (by decide), verbText,
    fitted?_integer directive integral, Option.getD_some]

/-- **One directive asks too much for an integer** exactly if its width is more than a text can
have and the integer does not fill it. -/
theorem excess?_integer {flags : List Char} {width : Option Nat} {directive : Directive}
    (spells : Spells (flags ++ widthText width) directive) {number : Number} {whole : Int}
    (integral : number.toInt? = some whole) :
    excess? (integerFormat flags width) [.number number] =
      if 2 ^ 63 ≤ directive.size ∧ (signedText directive.plus whole).length < directive.size then
        some .width
      else none := by
  have unfilled : fitted? { directive with width := none } 'd' (.number number) =
      some (signedText directive.plus whole) := fitted?_integer _ integral
  have precise : takesPrecision 'd' (.number number) = false := rfl
  rw [integerFormat, excess?_directive spells (by decide) (by decide), Directive.excess?, precise,
    Bool.false_and, if_neg Bool.false_ne_true]
  unfold isTooWide Directive.size
  rw [unfilled]
  cases directive.width with
  | none => rfl
  | some size => simp

/-- A plus sign that zeros are put in front of: both flags stand without the one that pads with
spaces, the integer is not negative, and its text is shorter than the width. -/
def Misplaces (flags : List Char) (width : Option Nat) (whole : Int) : Prop :=
  '+' ∈ flags ∧ '0' ∈ flags ∧ '-' ∉ flags ∧ 0 ≤ whole ∧
    (signedText true whole).length < keptWidth width

theorem zeros_pos_iff (directive : Directive) (text : List Char) :
    0 < directive.zeros text ↔
      directive.zero = true ∧ directive.minus = false ∧ text.length < directive.size := by
  unfold Directive.zeros
  cases directive.zero <;> cases directive.minus <;> simp

theorem misplaces_iff {flags : List Char} {width : Option Nat} {directive : Directive}
    (minus : directive.minus = flags.contains '-') (plus : directive.plus = flags.contains '+')
    (size : directive.size = keptWidth width)
    (zero : 0 < keptWidth width → directive.zero = flags.contains '0') (whole : Int) :
    (0 < directive.zeros (signedText directive.plus whole) ∧ directive.plus = true ∧ 0 ≤ whole) ↔
      Misplaces flags width whole := by
  rw [zeros_pos_iff, size, minus, plus, Misplaces]
  constructor
  · rintro ⟨⟨zeroed, left, short⟩, signed, least⟩
    rw [zero (Nat.zero_lt_of_lt short)] at zeroed
    rw [signed] at short
    rw [← Bool.not_eq_true, List.contains_iff_mem] at left
    exact ⟨List.contains_iff_mem.mp signed, List.contains_iff_mem.mp zeroed, left, least, short⟩
  · rintro ⟨signed, zeroed, left, least, short⟩
    have asked : flags.contains '+' = true := List.contains_iff_mem.mpr signed
    have absent : flags.contains '-' = false := by
      rw [← Bool.not_eq_true, List.contains_iff_mem]
      exact left
    rw [asked, zero (Nat.zero_lt_of_lt short)]
    exact ⟨⟨List.contains_iff_mem.mpr zeroed, absent, short⟩, rfl, least⟩

/-- **Padding keeps integers, but for zeros in front of a plus sign.** A number of integral value,
written under the verb for integers with any of the flags for the left side, the plus sign and
zeros, and with any width or none, takes as many characters as the width says and its text with its
sign needs, if that fits into memory; a greater width ends the program. Without the spaces around it
the output is read as an equal number, unless zeros were put in front of a plus sign. -/
theorem padding_keeps_integers :
    ∀ (number : Number) (whole : Int), number.toInt? = some whole →
      ∀ (flags : List Char) (width : Option Nat), (∀ flag ∈ flags, flag ∈ ['-', '+', '0']) →
        ∃ output : List Char,
          (∀ (context : Context) (strict : Bool) (query : Query),
            (keptWidth width < 2 ^ 63 →
              Registry.standard.invoke context "sprintf"
                [.string (String.ofList (integerFormat flags width)), .array [.number number]]
                strict query = (.ok (.string (String.ofList output)), query)) ∧
            (2 ^ 63 ≤ keptWidth width →
              (signedText (flags.contains '+') whole).length < keptWidth width →
                Registry.standard.invoke context "sprintf"
                  [.string (String.ofList (integerFormat flags width)), .array [.number number]]
                  strict query =
                    (.error (.failed ⟨.aborting, "sprintf", .tooWide, context.location⟩), query))) ∧
          output.length =
            max (keptWidth width) (signedText (flags.contains '+') whole).length ∧
          ((∃ read, Number.ofText (String.ofList (Text.trimWhile (· == ' ') output)) = .ok read ∧
            read.compare number = .eq) ↔ ¬Misplaces flags width whole) := by
  intro number whole integral flags width flagged
  obtain ⟨directive, spells, minus, plus, size, zero⟩ := exists_directive flagged width
  refine ⟨pad directive true (signedText directive.plus whole), ?_, ?_, ?_⟩
  · intro context strict query
    have excess := excess?_integer spells integral
    rw [← String.toList_ofList (l := integerFormat flags width), size, plus] at excess
    constructor
    · intro fits
      rw [if_neg fun wide => absurd wide.1 (Nat.not_le.mpr fits)] at excess
      rw [invoke_sprintf excess, String.toList_ofList, render_integer spells integral]
    · intro wide short
      rw [if_pos ⟨wide, short⟩] at excess
      exact (Registry.Overtaxes.format excess).invoke context strict query
  · rw [length_pad, size, plus]
  · obtain ⟨before, after, leading, trailing, padded⟩ :=
      exists_pad_eq directive (signedText directive.plus whole)
    have solid := solid_filled_signedText (directive.zeros (signedText directive.plus whole))
      directive.plus whole
    have trimmed : Text.trimWhile (· == ' ')
          (pad directive true (signedText directive.plus whole)) =
        filled (directive.zeros (signedText directive.plus whole))
          (signedText directive.plus whole) := by
      rw [padded]
      refine Text.trimWhile_append leading ?_ trailing
      intro character member
      have plain := solid character member
      exact beq_eq_false_iff_ne.mpr fun space => by subst space; cases plain
    rw [trimmed, ofText_filled_signedText, ← misplaces_iff minus plus size zero whole]
    split
    · next misplaced =>
        exact ⟨fun ⟨_, refused, _⟩ => absurd refused nofun, fun kept => absurd misplaced kept⟩
    · next placed =>
        exact ⟨fun _ => placed, fun _ => ⟨.ofInt whole, rfl,
          Number.compare_of_toInt? (Number.toInt?_ofInt whole) integral⟩⟩

/-- A negative double under all three flags, and a word that zeros are put in after the sign. -/
theorem padding_keeps_integers_samples :
    (∃ output : List Char,
      (∀ (context : Context) (strict : Bool) (query : Query),
        Registry.standard.invoke context "sprintf"
          [.string (String.ofList (integerFormat ['+', '-', '0'] (some 6))),
            .array [.number (.float (.ofBits 0xC014000000000000))]] strict query =
          (.ok (.string (String.ofList output)), query)) ∧
      output.length = 6 ∧
      ∃ read, Number.ofText (String.ofList (Text.trimWhile (· == ' ') output)) = .ok read ∧
        read.compare (.float (.ofBits 0xC014000000000000)) = .eq) ∧
    ∃ output : List Char, output.length = 5 ∧
      ∃ read, Number.ofText (String.ofList (Text.trimWhile (· == ' ') output)) = .ok read ∧
        read.compare (.word (-7)) = .eq := by
  constructor
  · obtain ⟨output, call, length, reads⟩ := padding_keeps_integers
      (.float (.ofBits 0xC014000000000000)) (-5) (by decide +kernel) ['+', '-', '0'] (some 6)
      (by simp)
    exact ⟨output, fun context strict query => (call context strict query).1 (by decide),
      length.trans (by decide +kernel),
      reads.mpr fun misplaced => absurd misplaced.2.2.1 (by decide)⟩
  · obtain ⟨output, _, length, reads⟩ := padding_keeps_integers (.word (-7)) (-7) rfl ['+', '0']
      (some 5) (by simp)
    exact ⟨output, length.trans (by decide +kernel),
      reads.mpr fun misplaced => absurd misplaced.2.2.2.1 (by decide)⟩

/-- Zeros in front of a plus sign are not read. -/
theorem not_all_padding_keeps_integers :
    render "%+05d".toList [.number (.word 3)] = "000+3".toList ∧
    ¬∀ (value : Int64) (flags : List Char) (width : Option Nat),
      (∀ flag ∈ flags, flag ∈ ['-', '+', '0']) →
        ∃ read, Number.ofText (String.ofList (Text.trimWhile (· == ' ')
          (render (integerFormat flags width) [.number (.word value)]))) = .ok read := by
  refine ⟨by decide +kernel, fun all => ?_⟩
  obtain ⟨read, same⟩ := all 3 ['+', '0'] (some 5) (by simp)
  have refused : Number.ofText (String.ofList (Text.trimWhile (· == ' ')
      (render (integerFormat ['+', '0'] (some 5)) [.number (.word 3)]))) = .error .malformed := by
    decide +kernel
  rw [refused] at same
  cases same

end Format

end Rego
