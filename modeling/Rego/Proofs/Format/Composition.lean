import Rego.Proofs.Builtin.Overtaxing
import Rego.Proofs.Format.Directives

/-!
# Filling format strings in parts

The verbs of a format string take the arguments in order. What is written for a verb depends on
nothing but the number of verbs before it: it is the text of the argument with that position, or a
note that it is missing (`texts`). The arguments that are left over are those past the number of
verbs (`fill_eq`), and they are listed at the end.

So a format string in two parts, the first of which ends outside of directives, is filled part by
part when the first part gets as many arguments as it has verbs (`render_append`). No state of the
reader crosses the border, since reading the second part starts in text. It asks too much exactly if
one of the parts does (`excess?_append`), and no string does whose widths and precisions are in the
range of what texts and numbers have (`excess?_of_moderate`).
-/

namespace Rego.Format

set_option autoImplicit false

open scoped Rego.Power

open Builtin.Strings (excessCause)

/-- The pieces of a format string. -/
def pieces (format : List Char) : List Piece := (scan .text format).2

/-- The number of verbs of a format string. -/
def verbs (format : List Char) : Nat := verbCount (pieces format)

/-- A text in which every percent sign stands twice. -/
def doubled (text : List Char) : List Char :=
  text.flatMap fun character => if character = '%' then ['%', '%'] else [character]

/-- The note that a verb has no argument. -/
def missing (verb : Char) : List Char := '%' :: '!' :: verb :: "(MISSING)".toList

/-- The note on arguments that no verb takes, separated by commas. -/
def surplus (arguments : List Value) : List Char :=
  "%!(EXTRA ".toList ++ [',', ' '].intercalate (arguments.map Value.literal) ++ [')']

/-- The text of pieces that `taken` verbs stand before, each verb with the argument of its
position. -/
def texts (arguments : List Value) (taken : Nat) : List Piece → List Char
  | [] => []
  | .text character :: rest => character :: texts arguments taken rest
  | .verb directive verb :: rest =>
    ((arguments[taken]?).elim (missing verb) (verbText directive verb)) ++
      texts arguments (taken + 1) rest

/-! ## Pieces -/

variable {front back format : List Char} {arguments more : List Value}

theorem isComplete_iff : isComplete format = true ↔ (scan .text format).1 = .text := beq_iff_eq

theorem scan_of_isComplete (complete : isComplete front = true) (back : List Char) :
    scan .text (front ++ back) = ((scan .text back).1, pieces front ++ pieces back) := by
  rw [scan_append, isComplete_iff.mp complete]
  rfl

theorem pieces_append (complete : isComplete front = true) (back : List Char) :
    pieces (front ++ back) = pieces front ++ pieces back :=
  congrArg Prod.snd (scan_of_isComplete complete back)

theorem verbCount_append (before after : List Piece) :
    verbCount (before ++ after) = verbCount before + verbCount after := by
  unfold verbCount
  rw [List.filter_append, List.length_append]

@[simp] theorem verbCount_text (character : Char) (rest : List Piece) :
    verbCount (.text character :: rest) = verbCount rest := rfl

@[simp] theorem verbCount_verb (directive : Directive) (verb : Char) (rest : List Piece) :
    verbCount (.verb directive verb :: rest) = verbCount rest + 1 := rfl

/-! ## Arguments -/

/-- **Every verb takes the argument of its position**, and those past all verbs are left over. -/
theorem fill_eq (arguments : List Value) (taken : Nat) (parts : List Piece) :
    fill parts (arguments.drop taken) =
      (texts arguments taken parts, arguments.drop (taken + verbCount parts)) := by
  induction parts generalizing taken with
  | nil => rfl
  | cons piece rest ih =>
      cases piece with
      | text character => rw [fill, ih, texts, verbCount_text]
      | verb directive verb =>
          have position : taken + verbCount (.verb directive verb :: rest) =
              taken + 1 + verbCount rest := by rw [verbCount_verb]; omega
          rw [position, texts]
          cases found : arguments[taken]? with
          | none =>
              have past : arguments.length ≤ taken := List.getElem?_eq_none_iff.mp found
              have none : arguments.drop taken = [] := List.drop_eq_nil_of_le past
              have still : arguments.drop (taken + 1) = [] := List.drop_eq_nil_of_le (by omega)
              have later := ih (taken + 1)
              rw [still] at later
              rw [none, fill, later]
              rfl
          | some argument =>
              obtain ⟨inside, same⟩ := List.getElem?_eq_some_iff.mp found
              rw [List.drop_eq_getElem_cons inside, same, fill, ih]
              rfl

/-- Arguments past those that are taken make no difference. -/
theorem texts_append (arguments more : List Value) (taken : Nat) (parts : List Piece)
    (enough : taken + verbCount parts ≤ arguments.length) :
    texts (arguments ++ more) taken parts = texts arguments taken parts := by
  induction parts generalizing taken with
  | nil => rfl
  | cons piece rest ih =>
      cases piece with
      | text character => rw [texts, texts, ih taken enough]
      | verb directive verb =>
          rw [verbCount_verb] at enough
          rw [texts, texts, ih (taken + 1) (by omega), List.getElem?_append_left (by omega)]

/-- Pieces in two parts: the verbs of the second take the arguments after those of the first. -/
theorem texts_append_pieces (arguments : List Value) (taken : Nat) (before after : List Piece) :
    texts arguments taken (before ++ after) =
      texts arguments taken before ++ texts arguments (taken + verbCount before) after := by
  induction before generalizing taken with
  | nil => rfl
  | cons piece rest ih =>
      cases piece with
      | text character => rw [List.cons_append, texts, ih, texts, verbCount_text]; rfl
      | verb directive verb =>
          rw [List.cons_append, texts, ih, texts, verbCount_verb, List.append_assoc,
            Nat.add_right_comm, Nat.add_assoc taken]

/-- Positions count from the first argument. -/
theorem texts_drop (arguments : List Value) (dropped taken : Nat) (parts : List Piece) :
    texts (arguments.drop dropped) taken parts = texts arguments (dropped + taken) parts := by
  induction parts generalizing taken with
  | nil => rfl
  | cons piece rest ih =>
      cases piece with
      | text character => rw [texts, texts, ih]
      | verb directive verb => rw [texts, texts, ih, List.getElem?_drop, Nat.add_assoc]

/-! ## Whole strings -/

theorem literalItems_eq (items : List Value) :
    Value.literalItems items = [',', ' '].intercalate (items.map Value.literal) := by
  induction items with
  | nil => rfl
  | cons item rest ih =>
      cases rest with
      | nil => rw [Value.literalItems, List.map_singleton, List.intercalate_singleton]
      | cons next later =>
          have step : Value.literalItems (item :: next :: later) =
              item.literal ++ ([',', ' '] ++ Value.literalItems (next :: later)) :=
            Value.literalItems.eq_3 item (next :: later) (List.cons_ne_nil next later)
          rw [step, ih, List.map_cons, List.map_cons, List.map_cons, List.intercalate_cons_cons,
            List.append_assoc]

theorem leftOver_eq (arguments : List Value) :
    leftOver arguments = if arguments = [] then [] else surplus arguments := by
  cases arguments with
  | nil => rfl
  | cons first rest =>
      have listed : leftOver (first :: rest) =
          "%!(EXTRA ".toList ++ Value.literalItems (first :: rest) ++ [')'] := rfl
      rw [listed, literalItems_eq, if_neg (List.cons_ne_nil first rest)]
      rfl

theorem unfinished_eq (format : List Char) :
    unfinished (scan .text format).1 =
      if isComplete format then [] else "%!(NOVERB)".toList := by
  by_cases complete : isComplete format = true
  · rw [if_pos complete, isComplete_iff.mp complete]
    rfl
  · rw [if_neg complete]
    rw [isComplete_iff] at complete
    cases ended : (scan .text format).1 with
    | text => exact absurd ended complete
    | flags directive => rfl
    | width directive digits => rfl
    | precision directive digits => rfl

/-- **What a format string gives:** the texts of its pieces, a note if it ends inside a directive,
and a note that lists the arguments past the number of its verbs. -/
theorem render_eq (format : List Char) (arguments : List Value) :
    render format arguments = texts arguments 0 (pieces format) ++
      (if isComplete format then [] else "%!(NOVERB)".toList) ++
      (if arguments.length ≤ verbs format then []
        else surplus (arguments.drop (verbs format))) := by
  have filled := fill_eq arguments 0 (pieces format)
  rw [List.drop_zero, Nat.zero_add] at filled
  have rendered : render format arguments = (fill (pieces format) arguments).1 ++
      unfinished (scan .text format).1 ++ leftOver (fill (pieces format) arguments).2 := rfl
  rw [rendered, filled, unfinished_eq, leftOver_eq]
  simp only [List.drop_eq_nil_iff]
  rfl

theorem isComplete_append (complete : isComplete front = true) (back : List Char) :
    isComplete (front ++ back) = isComplete back := by
  unfold isComplete
  rw [scan_of_isComplete complete]

theorem verbs_append (complete : isComplete front = true) (back : List Char) :
    verbs (front ++ back) = verbs front + verbs back := by
  unfold verbs
  rw [pieces_append complete, verbCount_append]

/-- **Format strings are filled part by part**, if the first part ends outside of directives and
gets as many arguments as it has verbs. -/
theorem render_append (complete : isComplete front = true)
    (count : arguments.length = verbs front) (back : List Char) (more : List Value) :
    render (front ++ back) (arguments ++ more) =
      render front arguments ++ render back more := by
  have first : texts (arguments ++ more) 0 (pieces front) = texts arguments 0 (pieces front) :=
    texts_append arguments more 0 (pieces front) (by
      rw [Nat.zero_add]
      exact Nat.le_of_eq count.symm)
  have second : texts (arguments ++ more) (verbCount (pieces front)) (pieces back) =
      texts more 0 (pieces back) := by
    have position := texts_drop (arguments ++ more) arguments.length 0 (pieces back)
    rw [List.drop_left, count] at position
    exact position.symm
  have rest : (arguments ++ more).drop (verbs front + verbs back) = more.drop (verbs back) := by
    rw [← count, List.drop_append]
    simp
  have enough : (arguments ++ more).length ≤ verbs front + verbs back ↔
      more.length ≤ verbs back := by
    rw [List.length_append, count]
    omega
  rw [render_eq, render_eq, render_eq, pieces_append complete, texts_append_pieces, first,
    Nat.zero_add, second, isComplete_append complete, verbs_append complete, rest]
  simp only [enough, complete, if_true, if_pos (Nat.le_of_eq count), List.append_nil,
    List.append_assoc]

/-! ## Limits -/

/-- Pieces in two parts ask too much where the first part does, and otherwise where the second
does. -/
theorem fillExcess?_append (before after : List Piece) {arguments : List Value}
    (count : arguments.length = verbCount before) (more : List Value) :
    fillExcess? (before ++ after) (arguments ++ more) =
      (fillExcess? before arguments).or (fillExcess? after more) := by
  induction before generalizing arguments with
  | nil =>
      obtain rfl := List.length_eq_zero_iff.mp count
      rfl
  | cons piece rest ih =>
      cases piece with
      | text character => exact ih count
      | verb directive verb =>
          cases arguments with
          | nil => cases count
          | cons argument arguments =>
              rw [List.cons_append, List.cons_append, fillExcess?, fillExcess?, Option.or_assoc,
                ih (Nat.succ.inj count)]

/-- **A format string in two parts asks too much exactly if one of them does.** -/
theorem excess?_append (complete : isComplete front = true)
    (count : arguments.length = verbs front) (back : List Char) (more : List Value) :
    excess? (front ++ back) (arguments ++ more) =
      (excess? front arguments).or (excess? back more) := by
  have parts := fillExcess?_append (pieces front) (pieces back) count more
  rwa [← pieces_append complete] at parts

/-- A width that a text may have, and a precision that numbers are written with. -/
structure Directive.Moderate (directive : Directive) : Prop where
  width : directive.width.getD 0 < 2 ^ (63 : Nat)
  precision : directive.precision.getD 6 < 2 ^ (16 : Nat)

theorem Directive.Moderate.excess?_eq_none {directive : Directive} (moderate : directive.Moderate)
    (verb : Char) (argument : Value) : directive.excess? verb argument = none := by
  have narrow : isTooWide directive verb argument = false := by
    unfold isTooWide
    cases asked : directive.width with
    | none => rfl
    | some size =>
        have width : size < 2 ^ (63 : Nat) := by simpa [asked] using moderate.width
        dsimp only
        rw [decide_eq_false (Nat.not_le.mpr width), Bool.false_and]
  unfold Directive.excess?
  rw [narrow, decide_eq_false (Nat.not_le.mpr moderate.precision), Bool.and_false,
    if_neg Bool.false_ne_true, if_neg Bool.false_ne_true]

theorem fillExcess?_of_moderate {parts : List Piece}
    (moderate : ∀ directive verb, Piece.verb directive verb ∈ parts → directive.Moderate)
    (arguments : List Value) : fillExcess? parts arguments = none := by
  induction parts generalizing arguments with
  | nil => rfl
  | cons piece rest ih =>
      have later := ih fun directive verb member =>
        moderate directive verb (List.mem_cons_of_mem _ member)
      cases piece with
      | text character => exact later arguments
      | verb directive verb =>
          cases arguments with
          | nil => rfl
          | cons argument arguments =>
              rw [fillExcess?, (moderate directive verb List.mem_cons_self).excess?_eq_none, later]
              rfl

/-- **A format string whose widths and precisions are moderate never asks too much.** -/
theorem excess?_of_moderate
    (moderate : ∀ directive verb, Piece.verb directive verb ∈ pieces format → directive.Moderate)
    (arguments : List Value) : excess? format arguments = none :=
  fillExcess?_of_moderate moderate arguments

/-! ## Text alone -/

/-- Doubled percent signs are text. -/
theorem scan_doubled (text : List Char) :
    scan .text (doubled text) = (.text, text.map .text) := by
  induction text with
  | nil => rfl
  | cons character rest ih =>
      have parts : doubled (character :: rest) =
          (if character = '%' then ['%', '%'] else [character]) ++ doubled rest :=
        List.flatMap_cons
      rw [parts, scan_append]
      split
      · next same =>
          subst same
          change ((scan .text (doubled rest)).1, .text '%' :: (scan .text (doubled rest)).2) = _
          rw [ih, List.map_cons]
      · next other =>
          have plain : scan .text [character] = (.text, [.text character]) := by
            rw [scan_singleton, step, if_neg other]
          rw [plain, ih, List.map_cons]
          rfl

theorem texts_map_text (arguments : List Value) (taken : Nat) (text : List Char) :
    texts arguments taken (text.map .text) = text := by
  induction text with
  | nil => rfl
  | cons character rest ih => rw [List.map_cons, texts, ih]

/-- **A text with doubled percent signs gives the text.** -/
theorem render_doubled (text : List Char) : render (doubled text) [] = text := by
  have complete : isComplete (doubled text) = true := by
    rw [isComplete_iff, scan_doubled]
  have read : pieces (doubled text) = text.map .text := congrArg Prod.snd (scan_doubled text)
  have enough : ([] : List Value).length ≤ verbs (doubled text) := Nat.zero_le _
  rw [render_eq, if_pos complete, if_pos enough, read, texts_map_text, List.append_nil,
    List.append_nil]

theorem excess?_doubled (text : List Char) (arguments : List Value) :
    excess? (doubled text) arguments = none := by
  refine excess?_of_moderate (fun directive verb member => ?_) arguments
  rw [pieces, scan_doubled] at member
  obtain ⟨_, _, same⟩ := List.mem_map.mp member
  cases same

/-! ## Directives -/

variable {characters : List Char} {directive : Directive} {verb : Char}

theorem isComplete_directive (spells : Spells characters directive) (verbal : IsVerb verb) :
    isComplete ('%' :: (characters ++ [verb])) = true := by
  rw [isComplete_iff, scan_spells spells verbal]

theorem pieces_directive (spells : Spells characters directive) (verbal : IsVerb verb) :
    pieces ('%' :: (characters ++ [verb])) = [finish directive verb] :=
  congrArg Prod.snd (scan_spells spells verbal)

/-- A directive between two parts is one piece between theirs. -/
theorem texts_spelled (complete : isComplete front = true)
    (spells : Spells characters directive) (verbal : IsVerb verb) (back : List Char)
    (arguments : List Value) :
    texts arguments 0 (pieces (front ++ ('%' :: (characters ++ [verb]) ++ back))) =
      texts arguments 0 (pieces front) ++
        texts arguments (verbs front) (finish directive verb :: pieces back) := by
  rw [pieces_append complete, pieces_append (isComplete_directive spells verbal),
    pieces_directive spells verbal, texts_append_pieces, Nat.zero_add]
  rfl

/-- A directive writes the argument with the position that the verbs before it give it. -/
theorem texts_directive (complete : isComplete front = true)
    (spells : Spells characters directive) (verbal : IsVerb verb) (named : verb ≠ '%')
    (back : List Char) (arguments : List Value) :
    texts arguments 0 (pieces (front ++ ('%' :: (characters ++ [verb]) ++ back))) =
      texts arguments 0 (pieces front) ++
        ((arguments[verbs front]?).elim (missing verb) (verbText directive verb) ++
          texts arguments (verbs front + 1) (pieces back)) := by
  rw [texts_spelled complete spells verbal, finish, if_neg named, texts]

/-- A directive whose verb is a percent sign writes the sign and takes no argument. -/
theorem texts_percent (complete : isComplete front = true)
    (spells : Spells characters directive) (back : List Char) (arguments : List Value) :
    texts arguments 0 (pieces (front ++ ('%' :: (characters ++ ['%']) ++ back))) =
      texts arguments 0 (pieces front) ++
        '%' :: texts arguments (verbs front) (pieces back) := by
  rw [texts_spelled complete spells (by decide), finish, if_pos rfl, texts]

/-! ## Calls -/

theorem invoke_sprintf {format : String} {arguments : List Value}
    (within : excess? format.toList arguments = none) (context : Context) (strict : Bool)
    (query : Query) :
    Registry.standard.invoke context "sprintf" [.string format, .array arguments] strict query =
      (.ok (.string (String.ofList (render format.toList arguments))), query) := by
  rw [Builtin.Strings.invoke_sprintf, Builtin.Strings.sprintf_of_no_excess within]
  rfl

/-- **Formatting is compositional.** A call puts the arguments into the format string, unless a
directive asks too much, which ends the program in both modes. Where a format string in two parts is
outside of directives between them, and the first part gets as many arguments as it has verbs, the
parts are filled apart, and the whole asks too much where one of them does. Text with doubled
percent signs comes out as the text. What is written is the text of the pieces, a note if the string
ends inside a directive, and, exactly if there are more arguments than verbs, a note that lists the
others in order. Among the pieces a directive, however it is flagged, stands for the argument with
the position that the verbs before it give it, or for the note that there is none, and a percent
sign as the verb takes no argument. Only widths from `2 ^ 63` on and precisions from `2 ^ 16` on are
too much. -/
theorem formatting_composes :
    (∀ (format : String) (arguments : List Value) (context : Context) (strict : Bool)
      (query : Query),
      (excess? format.toList arguments = none →
        Registry.standard.invoke context "sprintf" [.string format, .array arguments] strict query =
          (.ok (.string (String.ofList (render format.toList arguments))), query)) ∧
      ∀ excess, excess? format.toList arguments = some excess →
        Registry.standard.invoke context "sprintf" [.string format, .array arguments] strict query =
          (.error (.failed ⟨.aborting, "sprintf", excessCause excess, context.location⟩), query)) ∧
    (∀ (front back : List Char) (arguments more : List Value), isComplete front = true →
      arguments.length = verbs front →
        render (front ++ back) (arguments ++ more) =
          render front arguments ++ render back more ∧
        excess? (front ++ back) (arguments ++ more) =
          (excess? front arguments).or (excess? back more)) ∧
    (∀ text : List Char, render (doubled text) [] = text ∧ excess? (doubled text) [] = none) ∧
    (∀ (format : List Char) (arguments : List Value),
      render format arguments = texts arguments 0 (pieces format) ++
        (if isComplete format then [] else "%!(NOVERB)".toList) ++
        (if arguments.length ≤ verbs format then []
          else surplus (arguments.drop (verbs format)))) ∧
    (∀ (front characters : List Char) (directive : Directive) (verb : Char),
      isComplete front = true → Spells characters directive → IsVerb verb →
        ∀ (back : List Char) (arguments : List Value),
          texts arguments 0 (pieces (front ++ ('%' :: (characters ++ [verb]) ++ back))) =
            texts arguments 0 (pieces front) ++
              if verb = '%' then '%' :: texts arguments (verbs front) (pieces back)
              else (arguments[verbs front]?).elim (missing verb) (verbText directive verb) ++
                texts arguments (verbs front + 1) (pieces back)) ∧
    ∀ format : List Char,
      (∀ directive verb, Piece.verb directive verb ∈ pieces format → directive.Moderate) →
        ∀ arguments, excess? format arguments = none := by
  refine ⟨?_, ?_, ?_, render_eq, ?_, fun format => excess?_of_moderate⟩
  · intro format arguments context strict query
    exact ⟨fun within => invoke_sprintf within context strict query,
      fun excess beyond => (Registry.Overtaxes.format beyond).invoke context strict query⟩
  · intro front back arguments more complete count
    exact ⟨render_append complete count back more, excess?_append complete count back more⟩
  · exact fun text => ⟨render_doubled text, excess?_doubled text []⟩
  · intro front characters directive verb complete spells verbal back arguments
    by_cases percent : verb = '%'
    · subst percent
      rw [if_pos rfl, texts_percent complete spells]
    · rw [if_neg percent, texts_directive complete spells verbal percent]

/-- A string whose first part has a padded verb, a flagged percent sign and a second verb, and whose
second part has more verbs than arguments. -/
theorem formatting_composes_two_parts :
    (let front := "%5s|%-+%%s".toList
      let back := "-%02d%v".toList
      isComplete front = true ∧ verbs front = 2 ∧
      render (front ++ back) [.string "a", .string "b", .null] =
        "    a|%b".toList ++ "-%!d(null)%!v(MISSING)".toList) ∧
    texts [.string "a"] 0 (pieces ("%s".toList ++ ('%' :: (['-', '2'] ++ ['s']) ++ []))) =
      "a%!s(MISSING)".toList := by
  constructor
  · have parts := formatting_composes.2.1 "%5s|%-+%%s".toList "-%02d%v".toList
      [.string "a", .string "b"] [.null] (by decide) (by decide)
    refine ⟨by decide, by decide, parts.1.trans ?_⟩
    decide
  · have spells : Spells ['-', '2'] ⟨true, false, false, some 2, none⟩ :=
      @Spells.parts ['-'] ['2'] [] none (List.forall_mem_singleton.mpr List.mem_cons_self)
        (List.forall_mem_singleton.mpr rfl) (by decide) .absent
    exact formatting_composes.2.2.2.2.1 "%s".toList ['-', '2'] _ 's' (by decide) spells (by decide)
      [] [.string "a"]

end Rego.Format
