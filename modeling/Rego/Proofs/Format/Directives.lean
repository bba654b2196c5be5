import Rego.Value.Format

/-!
# Reading directives

A format string is read one character after the other, and reading two strings is reading the first
and going on with the second where that ended (`scan_append`). Between the percent sign of a
directive and its verb stand flags, a width that does not start with a zero, and a point with a
precision, each of which may be missing (`Spells`). A directive that is spelled so comes out as one
piece, and after it reading stands in text again (`scan_spells`).
-/

namespace Rego.Format

set_option autoImplicit false

/-! ## Strings in two parts -/

/-- Reading goes on with the second part where it stands after the first. -/
theorem scan_append (stage : Stage) (front back : List Char) :
    scan stage (front ++ back) =
      ((scan (scan stage front).1 back).1,
        (scan stage front).2 ++ (scan (scan stage front).1 back).2) := by
  induction front generalizing stage with
  | nil => rfl
  | cons character rest ih =>
      simp only [List.cons_append, scan, ih, List.append_assoc]

theorem scan_singleton (stage : Stage) (character : Char) :
    scan stage [character] = step stage character := by
  simp only [scan, List.append_nil]

/-- A character that gives no piece only moves the stage. -/
theorem scan_cons_of_step {stage next : Stage} {character : Char}
    (moves : step stage character = (next, [])) (rest : List Char) :
    scan stage (character :: rest) = scan next rest := by
  simp only [scan, moves, List.nil_append]

/-! ## Flags, width and precision -/

/-- The characters that are flags. -/
def flagCharacters : List Char := ['-', '+', '0', ' ', '#']

/-- A directive with the flags that are listed. -/
def Directive.flagged (directive : Directive) (flags : List Char) : Directive :=
  { directive with
    minus := directive.minus || flags.contains '-'
    plus := directive.plus || flags.contains '+'
    zero := directive.zero || flags.contains '0' }

/-- A precision: a point and digits, or nothing. -/
inductive SpellsPrecision : List Char → Option Nat → Prop where
  | absent : SpellsPrecision [] none
  | places {digits : List Char} (digital : ∀ digit ∈ digits, Radix.isDecimalDigit digit = true) :
      SpellsPrecision ('.' :: digits) (some ((sizeOf? digits).getD 0))

/-- What stands between the percent sign and the verb: flags, a width and a precision. -/
inductive Spells : List Char → Directive → Prop where
  | parts {flags digits point : List Char} {precision : Option Nat}
      (flagged : ∀ flag ∈ flags, flag ∈ flagCharacters)
      (digital : ∀ digit ∈ digits, Radix.isDecimalDigit digit = true)
      (leading : digits.head? ≠ some '0') (precise : SpellsPrecision point precision) :
      Spells (flags ++ digits ++ point)
        { Directive.empty.flagged flags with width := sizeOf? digits, precision := precision }

/-- A character that is no part of a directive but its verb. -/
def IsVerb (verb : Char) : Prop :=
  verb ∉ flagCharacters ∧ Radix.isDecimalDigit verb = false ∧ verb ≠ '.'

instance (verb : Char) : Decidable (IsVerb verb) := inferInstanceAs (Decidable (_ ∧ _ ∧ _))

/-! ## Reading the parts -/

theorem scan_flags {flags : List Char} (flagged : ∀ flag ∈ flags, flag ∈ flagCharacters)
    (directive : Directive) :
    scan (.flags directive) flags = (.flags (directive.flagged flags), []) := by
  induction flags generalizing directive with
  | nil => simp [scan, Directive.flagged]
  | cons flag rest ih =>
      obtain ⟨first, later⟩ := List.forall_mem_cons.mp flagged
      simp only [flagCharacters, List.mem_cons, List.not_mem_nil, or_false] at first
      rcases first with rfl | rfl | rfl | rfl | rfl <;>
        rw [scan_cons_of_step rfl, ih later] <;> simp [Directive.flagged]

/-- A stage that collects digits collects all of a run. -/
theorem scan_run {stage : List Char → Stage}
    (collects : ∀ before digit, Radix.isDecimalDigit digit = true →
      step (stage before) digit = (stage (before ++ [digit]), []))
    {digits : List Char} (digital : ∀ digit ∈ digits, Radix.isDecimalDigit digit = true)
    (before : List Char) :
    scan (stage before) digits = (stage (before ++ digits), []) := by
  induction digits generalizing before with
  | nil => rw [List.append_nil]; rfl
  | cons digit rest ih =>
      obtain ⟨first, later⟩ := List.forall_mem_cons.mp digital
      rw [scan_cons_of_step (collects before digit first), ih later, List.append_assoc,
        List.singleton_append]

theorem scan_width {digits : List Char}
    (digital : ∀ digit ∈ digits, Radix.isDecimalDigit digit = true) (directive : Directive)
    (before : List Char) :
    scan (.width directive before) digits = (.width directive (before ++ digits), []) :=
  @scan_run (.width directive) (fun _ _ digit => if_pos digit) digits digital before

theorem scan_places {digits : List Char}
    (digital : ∀ digit ∈ digits, Radix.isDecimalDigit digit = true) (directive : Directive)
    (before : List Char) :
    scan (.precision directive before) digits = (.precision directive (before ++ digits), []) :=
  @scan_run (.precision directive) (fun _ _ digit => if_pos digit) digits digital before

/-- Where reading stands after the flags and the digits of a width. -/
def widthStage (directive : Directive) (digits : List Char) : Stage :=
  if digits = [] then .flags directive else .width directive digits

/-- Among the flags, any other character is a digit of the width or stands after it. -/
theorem step_flags {character : Char} (other : character ∉ flagCharacters)
    (directive : Directive) :
    step (.flags directive) character =
      if Radix.isDecimalDigit character then (.width directive [character], [])
      else afterWidth directive character := by
  simp only [flagCharacters, List.mem_cons, List.not_mem_nil, or_false, not_or] at other
  -- The last equation of `step` holds under these five inequalities.
  obtain ⟨minus, plus, zero, space, hash⟩ := other
  simp only [step]

/-- The digits of a width do not start with a zero, which would be a flag. -/
theorem scan_digits {digits : List Char}
    (digital : ∀ digit ∈ digits, Radix.isDecimalDigit digit = true)
    (leading : digits.head? ≠ some '0') (directive : Directive) :
    scan (.flags directive) digits = (widthStage directive digits, []) := by
  cases digits with
  | nil => rfl
  | cons first rest =>
      obtain ⟨digit, later⟩ := List.forall_mem_cons.mp digital
      have other : first ∉ flagCharacters := by
        intro flag
        simp only [flagCharacters, List.mem_cons, List.not_mem_nil, or_false] at flag
        rcases flag with rfl | rfl | rfl | rfl | rfl
        · exact absurd digit (by decide)
        · exact absurd digit (by decide)
        · exact leading rfl
        · exact absurd digit (by decide)
        · exact absurd digit (by decide)
      have moves : step (.flags directive) first = (.width directive [first], []) := by
        rw [step_flags other, if_pos digit]
      rw [scan_cons_of_step moves, scan_width later]
      rfl

/-- What is neither a flag nor a digit stands after the width. -/
theorem step_widthStage {character : Char} (other : character ∉ flagCharacters)
    (solid : Radix.isDecimalDigit character = false) {directive : Directive}
    (fresh : directive.width = none) (digits : List Char) :
    step (widthStage directive digits) character =
      afterWidth { directive with width := sizeOf? digits } character := by
  unfold widthStage
  split
  · next missing =>
      have same : { directive with width := sizeOf? [] } = directive := by
        rw [show sizeOf? [] = directive.width from fresh.symm]
      rw [missing, same, step_flags other, solid]
      rfl
  · simp only [step, solid, Bool.false_eq_true, if_false]

theorem scan_precision {point : List Char} {precision : Option Nat}
    (precise : SpellsPrecision point precision) {verb : Char} (verbal : IsVerb verb)
    {directive : Directive} (fresh : directive.width = none ∧ directive.precision = none)
    (digits : List Char) :
    scan (widthStage directive digits) (point ++ [verb]) =
      (.text,
        [finish { directive with width := sizeOf? digits, precision := precision } verb]) := by
  obtain ⟨unflagged, solid, pointless⟩ := verbal
  cases precise with
  | absent =>
      rw [List.nil_append, scan_singleton, step_widthStage unflagged solid fresh.1, afterWidth,
        if_neg pointless, fresh.2]
  | @places places digital =>
      have opens : step (widthStage directive digits) '.' =
          (.precision { directive with width := sizeOf? digits } [], []) :=
        step_widthStage (by decide) (by decide) fresh.1 digits
      rw [List.cons_append, scan_cons_of_step opens, scan_append, scan_places digital,
        scan_singleton, List.nil_append]
      simp only [step, solid, Bool.false_eq_true, if_false, List.nil_append]

/-- **A directive is read as the piece that its parts and its verb make.** -/
theorem scan_spells {characters : List Char} {directive : Directive}
    (spells : Spells characters directive) {verb : Char} (verbal : IsVerb verb) :
    scan .text ('%' :: (characters ++ [verb])) = (.text, [finish directive verb]) := by
  obtain ⟨flagged, digital, leading, precise⟩ := spells
  rw [scan_cons_of_step rfl, List.append_assoc, List.append_assoc, scan_append, scan_flags flagged,
    scan_append, scan_digits digital leading, scan_precision precise verbal ⟨rfl, rfl⟩]
  rfl

end Rego.Format
