import Rego.Proofs.Builtin.Strings
import Rego.Proofs.Double.Closest
import Rego.Proofs.Number.Rounding

/-!
# Slices of arrays

A number stands for a position between zero and the length of an array (`Clamps`): what is below
zero for zero, a NaN for the length, and any other number for the integer part of its value, which
the length limits. A call that slices an array finds these positions for both of its bounds
(`clamps_clampPosition`) and gives the items between them. Larger numbers stand for larger positions
(`Clamps.mono`), and so slices whose bounds follow one another join (`slice_append_slice`).

The order of all numbers puts a NaN with a minus sign in front of every other number, and the length
is the last position. Where such a NaN is the first bound, slices do not join.
-/

namespace Rego

set_option autoImplicit false

namespace Number

open Double (signed unitsOfRank unitsOfRank_eq_zero_iff)

/-! ## Positions -/

/-- The position between zero and a length that a number stands for. -/
inductive Clamps (length : Nat) (number : Number) : Nat → Prop where
  | below {value : WithBot (WithTop ℚ)} (known : number.exactValue? = some value)
      (negative : value < rationalValue 0) : Clamps length number 0
  | inside {value : ℚ} (known : number.exactValue? = some (rationalValue value))
      (natural : 0 ≤ value) : Clamps length number (min ⌊value⌋₊ length)
  | beyond (known : number.exactValue? = some ⊤) : Clamps length number length
  | unknown (absent : number.exactValue? = none) : Clamps length number length

variable {length position other : Nat} {number left right : Number}

theorem rationalValue_lt_iff {low high : ℚ} : rationalValue low < rationalValue high ↔ low < high :=
  WithBot.coe_lt_coe.trans WithTop.coe_lt_coe

theorem rationalValue_lt_top (value : ℚ) : rationalValue value < ⊤ :=
  WithBot.coe_lt_coe.mpr (WithTop.coe_lt_top value)

theorem Clamps.le_length (clamps : Clamps length number position) : position ≤ length := by
  cases clamps with
  | below _ _ => exact Nat.zero_le _
  | inside _ _ => exact Nat.min_le_right _ _
  | beyond _ => exact Nat.le_refl _
  | unknown _ => exact Nat.le_refl _

/-- **Larger values stand for larger positions.** -/
theorem Clamps.mono {low high : WithBot (WithTop ℚ)} (one : Clamps length left position)
    (two : Clamps length right other) (known : left.exactValue? = some low)
    (known' : right.exactValue? = some high) (order : low ≤ high) : position ≤ other := by
  have same : ∀ {number : Number} {value value' : WithBot (WithTop ℚ)},
      number.exactValue? = some value → number.exactValue? = some value' → value = value' :=
    fun found found' => Option.some.inj (found.symm.trans found')
  cases one with
  | below _ _ => exact Nat.zero_le _
  | @inside value found natural =>
      obtain rfl := same known found
      cases two with
      | below found' negative =>
          obtain rfl := same known' found'
          exact absurd (rationalValue_lt_iff.mp (order.trans_lt negative)) (not_lt.mpr natural)
      | @inside value' found' _ =>
          obtain rfl := same known' found'
          have values : value ≤ value' := not_lt.mp (mt rationalValue_lt_iff.mpr (not_lt.mpr order))
          exact min_le_min_right length (Nat.floor_mono values)
      | beyond _ => exact Nat.min_le_right _ _
      | unknown _ => exact Nat.min_le_right _ _
  | beyond found =>
      obtain rfl := same known found
      obtain rfl := top_le_iff.mp order
      cases two with
      | below found' negative =>
          obtain rfl := same known' found'
          exact absurd negative not_top_lt
      | inside found' _ => exact absurd (same known' found') (rationalValue_lt_top _).ne'
      | beyond _ => exact Nat.le_refl _
      | unknown _ => exact Nat.le_refl _
  | unknown absent =>
      rw [known] at absent
      cases absent

theorem Clamps.unique (one : Clamps length number position) (two : Clamps length number other) :
    position = other := by
  cases known : number.exactValue? with
  | some value =>
      exact Nat.le_antisymm (one.mono two known known (le_refl _))
        (two.mono one known known (le_refl _))
  | none =>
      have last : ∀ {place : Nat}, Clamps length number place → place = length := by
        intro place clamps
        cases clamps with
        | unknown _ => rfl
        | below found _ => exact absurd (known.symm.trans found) nofun
        | inside found _ => exact absurd (known.symm.trans found) nofun
        | beyond found => exact absurd (known.symm.trans found) nofun
      rw [last one, last two]

/-! ## Computed positions -/

theorem isNegative_iff {value : WithBot (WithTop ℚ)} (known : number.exactValue? = some value) :
    number.isNegative = true ↔ value < rationalValue 0 := by
  cases number with
  | word whole =>
      obtain rfl := Option.some.inj known
      rw [rationalValue_lt_iff, Int.cast_lt_zero, isNegative, decide_eq_true_iff,
        Int64.lt_iff_toInt_lt]
      rfl
  | big whole =>
      obtain rfl := Option.some.inj known
      rw [rationalValue_lt_iff, Int.cast_lt_zero, isNegative, decide_eq_true_iff]
  | float double =>
      cases double with
      | notNumber _ _ => cases known
      | infinite negative =>
          cases negative with
          | true =>
              obtain rfl := Option.some.inj known
              exact iff_of_true rfl (WithBot.bot_lt_coe _)
          | false =>
              obtain rfl := Option.some.inj known
              exact iff_of_false Bool.false_ne_true not_top_lt
      | finite negative rank =>
          obtain rfl := Option.some.inj known
          rw [rationalValue_lt_iff, div_lt_iff₀ unitsPerOne_cast_pos, zero_mul, Int.cast_lt_zero,
            isNegative, Double.isNegative]
          have zero : unitsOfRank rank = 0 ↔ rank.val = 0 := unitsOfRank_eq_zero_iff
          cases negative with
          | false => simp [signed]
          | true =>
              have opposite : signed true (unitsOfRank rank) = -(unitsOfRank rank : Int) := rfl
              rw [opposite, Left.neg_neg_iff, Int.natCast_pos, Nat.pos_iff_ne_zero, Bool.true_and,
                bne_iff_ne, ne_eq, ne_eq, zero]

/-- **The computed position is the one that the number stands for.** -/
theorem clamps_clampPosition (small : length ≤ 2 ^ 64) (number : Number) :
    Clamps length number (Builtin.Collections.clampPosition length number) := by
  unfold Builtin.Collections.clampPosition
  cases finite : number.units? with
  | some units =>
      obtain ⟨value, known⟩ : ∃ value, number.exactValue? = some (rationalValue value) :=
        ⟨_, exactValue?_of_units? finite⟩
      by_cases negative : value < 0
      · rw [if_pos ((isNegative_iff known).mpr (rationalValue_lt_iff.mpr negative))]
        exact .below known (rationalValue_lt_iff.mpr negative)
      · have natural : 0 ≤ value := not_lt.mp negative
        rw [if_neg (mt (isNegative_iff known).mp (mt rationalValue_lt_iff.mp negative))]
        have whole : number.trunc.Denotes (⌊value⌋₊ : Nat) := by
          have truncated := Rounding.inward.denotes_roundWith known
          have same : Rounding.inward.integer value = (⌊value⌋₊ : Nat) := by
            rw [Int.natCast_floor_eq_floor natural]
            exact if_pos natural
          rwa [same] at truncated
        split
        · next position read =>
            obtain ⟨denotes, _⟩ := toUnsigned?_eq_some_iff.mp read
            rw [Int.ofNat_inj.mp (denotes.unique whole)]
            exact .inside known natural
        · next read =>
            have large : 2 ^ 64 ≤ ⌊value⌋₊ := by
              by_contra fits
              rw [toUnsigned?_eq_some_iff.mpr ⟨whole, not_le.mp fits⟩] at read
              cases read
            have clamps : Clamps length number (min ⌊value⌋₊ length) := .inside known natural
            rwa [Nat.min_eq_right (small.trans large)] at clamps
  | none =>
      cases number with
      | word _ => cases finite
      | big _ => cases finite
      | float double =>
          cases double with
          | finite _ _ => cases finite
          | notNumber _ _ => exact .unknown rfl
          | infinite negative =>
              cases negative with
              | true => exact .below rfl (WithBot.bot_lt_coe _)
              | false => exact .beyond rfl

/-! ## Positions in order -/

/-- A NaN with a minus sign. -/
def IsNegativeNaN (number : Number) : Prop := ∃ payload, number = .float (.notNumber true payload)

theorem exists_notNumber (absent : number.isNaN = true) :
    ∃ negative payload, number = .float (.notNumber negative payload) := by
  cases number with
  | word _ => cases absent
  | big _ => cases absent
  | float double =>
      cases double with
      | notNumber negative payload => exact ⟨negative, payload, rfl⟩
      | infinite _ => cases absent
      | finite _ _ => cases absent

/-- A number that is no NaN stands among the doubles between the infinities. -/
theorem position_bounds_of_not_isNaN (known : number.isNaN = false) :
    -(Double.rankBound : Int) - 1 ≤ number.orderKey.position ∧
      number.orderKey.position ≤ Double.rankBound := by
  cases finite : number.units? with
  | some units =>
      obtain ⟨negative, rank, key⟩ := exists_finite_key finite
      obtain ⟨low, high⟩ := position_finite_bounds negative rank
      rw [key]
      omega
  | none =>
      obtain ⟨negative, rfl⟩ := exists_infinite finite known
      cases negative <;> decide

theorem position_notNumber (negative : Bool) (payload : Fin (2 ^ 52 - 1)) :
    (Double.notNumber negative payload).position =
      if negative then -((Double.rankBound + 1 + payload.val : Nat) : Int) - 1
      else ((Double.rankBound + 1 + payload.val : Nat) : Int) := rfl

/-- A NaN without a minus sign is above every number that is no NaN. -/
theorem compare_notNumber_false (payload : Fin (2 ^ 52 - 1)) (known : right.isNaN = false) :
    (float (.notNumber false payload)).compare right = .gt := by
  obtain ⟨_, most⟩ := position_bounds_of_not_isNaN known
  have beyond := position_notNumber false payload
  simp only [Bool.false_eq_true, if_false] at beyond
  rw [compare_of_infinite (.inl rfl)]
  exact Int.compare_eq_gt.mpr (by rw [orderKey, beyond]; omega)

/-- A NaN with a minus sign is below every other number. -/
theorem compare_notNumber_true (payload : Fin (2 ^ 52 - 1)) (other : ¬left.IsNegativeNaN) :
    left.compare (.float (.notNumber true payload)) = .gt := by
  have beyond := position_notNumber true payload
  simp only [if_true] at beyond
  have least : -(Double.rankBound : Int) - 1 ≤ left.orderKey.position := by
    cases known : left.isNaN with
    | false => exact (position_bounds_of_not_isNaN known).1
    | true =>
        obtain ⟨negative, payload, rfl⟩ := exists_notNumber known
        cases negative with
        | true => exact absurd ⟨payload, rfl⟩ other
        | false =>
            rw [orderKey, position_notNumber]
            simp only [Bool.false_eq_true, if_false]
            omega
  rw [compare_of_infinite (.inr rfl)]
  exact Int.compare_eq_gt.mpr (by rw [orderKey.eq_3, beyond]; omega)

/-- **Larger numbers stand for larger positions**, where the smaller one is no NaN with a minus
sign. -/
theorem Clamps.mono_of_compare (one : Clamps length left position)
    (two : Clamps length right other) (order : left.compare right ≠ .gt)
    (forward : ¬left.IsNegativeNaN) : position ≤ other := by
  cases last : right.isNaN with
  | true =>
      obtain ⟨_, _, rfl⟩ := exists_notNumber last
      rw [two.unique (.unknown rfl)]
      exact one.le_length
  | false =>
      have known : left.isNaN = false := by
        rw [← Bool.not_eq_true]
        intro absent
        obtain ⟨negative, payload, rfl⟩ := exists_notNumber absent
        cases negative with
        | true => exact forward ⟨payload, rfl⟩
        | false => exact order (compare_notNumber_false payload last)
      obtain ⟨low, high, found, found', same, _⟩ := compare_eq_cmp_exact known last
      rw [same, Ne, cmp_eq_gt_iff, not_lt] at order
      exact one.mono two found found' order

/-- A natural number stands for itself, up to the length. -/
theorem clamps_ofNat (position length : Nat) :
    Clamps length (.ofNat position) (min position length) := by
  have known : (ofNat position).exactValue? = some (rationalValue (position : ℚ)) :=
    denotes_ofInt position
  have clamps := @Clamps.inside length _ _ known (Nat.cast_nonneg position)
  rwa [Nat.floor_natCast] at clamps

end Number

/-! ## Parts of a list -/

section Parts

variable {Item : Type} {first middle last : Nat}

/-- Parts of a list that follow one another join. -/
theorem slice_append_slice (items : List Item) (before : first ≤ middle) (after : middle ≤ last) :
    (items.take middle).drop first ++ (items.take last).drop middle =
      (items.take last).drop first := by
  have inner : items.take middle = (items.take last).take middle := by
    rw [List.take_take, Nat.min_eq_left after]
  rw [inner, List.drop_take]
  conv => lhs; rhs; rw [← Nat.sub_add_cancel before, Nat.add_comm, ← List.drop_drop]
  exact List.take_append_drop _ _

/-- A part of a list is what stands between its beginning and its end. -/
theorem exists_slice (items : List Item) (before : first ≤ last) (inside : last ≤ items.length) :
    ∃ front back, items = front ++ (items.take last).drop first ++ back ∧ front.length = first ∧
      (front ++ (items.take last).drop first).length = last := by
  have joined : items.take first ++ (items.take last).drop first = items.take last := by
    have whole := slice_append_slice items (Nat.zero_le first) before
    rwa [List.drop_zero, List.drop_zero] at whole
  refine ⟨items.take first, items.drop last, ?_, ?_, ?_⟩
  · rw [joined, List.take_append_drop]
  · exact List.length_take_of_le (before.trans inside)
  · rw [joined, List.length_take_of_le inside]

end Parts

namespace Builtin.Collections

open Registry (Gives)
open Number (Clamps)

variable {items : List Value}

/-! ## Calls -/

theorem allows_array (items : List Value) (label : String) (text : Option String) :
    (Ty.named label text (.array [] (some (.any [])))).Allows (.array items) :=
  .named (.inr (Ty.admits_arrayOfAny items)) label text

theorem gives_concat (left right : List Value) :
    Gives "array.concat" [.array left, .array right] (.array (left ++ right)) := by
  have found : Registry.standard.find? "array.concat" =
      some (binary Declared.arrayConcat concat) := rfl
  exact Registry.gives_of_run found (by decide) (Registry.check_of_allows
    (.cons (allows_array left _ _) (.cons (allows_array right _ _) .nil))) rfl

/-- **A call gives the items between the positions that its bounds stand for.** -/
theorem gives_slice {start stop : Number} {first last : Nat} (small : items.length ≤ 2 ^ 64)
    (one : Clamps items.length start first) (two : Clamps items.length stop last) :
    Gives "array.slice" [.array items, .number start, .number stop]
      (.array ((items.take last).drop first)) := by
  have found : Registry.standard.find? "array.slice" =
      some (ternary Declared.arraySlice slice) := rfl
  have number : ∀ (bound : Number) (label : String) (text : Option String),
      (Ty.named label text .number).Allows (.number bound) :=
    fun bound label text => .named (.inr rfl) label text
  rw [one.unique (Number.clamps_clampPosition small start),
    two.unique (Number.clamps_clampPosition small stop)]
  exact Registry.gives_of_run found (by decide) (Registry.check_of_allows
    (.cons (allows_array items _ _) (.cons (number start _ _) (.cons (number stop _ _) .nil)))) rfl

theorem gives_slice_front {middle : Number} {position : Nat} (small : items.length ≤ 2 ^ 64)
    (clamps : Clamps items.length middle position) :
    Gives "array.slice" [.array items, .ofInt 0, .number middle]
      (.array (items.take position)) := by
  have first := Number.clamps_ofNat 0 items.length
  rw [Nat.zero_min] at first
  exact gives_slice small first clamps

theorem gives_slice_back {middle : Number} {position : Nat} (small : items.length ≤ 2 ^ 64)
    (clamps : Clamps items.length middle position) :
    Gives "array.slice" [.array items, .number middle, .ofNat items.length]
      (.array (items.drop position)) := by
  have last := Number.clamps_ofNat items.length items.length
  rw [Nat.min_self] at last
  have gives := gives_slice small clamps last
  rwa [List.take_length] at gives

/-- **Slices stay within an array and join.** An array is one that fits into memory, with at most
`2 ^ 64` items. A slice is given for all numbers as bounds, in whatever representation: the items
between the two positions that the bounds stand for, and none if the second position is not behind
the first. The slices up to a number and from it on are the array in two parts. Slices between
three numbers in ascending order join, unless the first is a NaN with a minus sign, which is below
all numbers and stands for the length. -/
theorem slices_join (items : List Value) (small : items.length ≤ 2 ^ 64) :
    (∀ start stop : Number, ∃ (first last : Nat) (slice : List Value),
      Clamps items.length start first ∧ Clamps items.length stop last ∧
      Gives "array.slice" [.array items, .number start, .number stop] (.array slice) ∧
      (last ≤ first → slice = []) ∧
      (first ≤ last → ∃ front back, items = front ++ slice ++ back ∧ front.length = first ∧
        (front ++ slice).length = last)) ∧
    (∀ middle : Number, ∃ (count : Value) (front back : List Value),
      Gives "count" [.array items] count ∧
      Gives "array.slice" [.array items, .ofInt 0, .number middle] (.array front) ∧
      Gives "array.slice" [.array items, .number middle, count] (.array back) ∧
      Gives "array.concat" [.array front, .array back] (.array items)) ∧
    ∀ start middle stop : Number, start.compare middle ≠ .gt → middle.compare stop ≠ .gt →
      ¬start.IsNegativeNaN → ∃ left right : List Value,
        Gives "array.slice" [.array items, .number start, .number middle] (.array left) ∧
        Gives "array.slice" [.array items, .number middle, .number stop] (.array right) ∧
        Gives "array.slice" [.array items, .number start, .number stop]
          (.array (left ++ right)) := by
  have clamps := fun number => Number.clamps_clampPosition small number
  refine ⟨fun start stop => ?_, fun middle => ?_, fun start middle stop low high forward => ?_⟩
  · refine ⟨_, _, _, clamps start, clamps stop, gives_slice small (clamps start) (clamps stop),
      fun behind => ?_, fun before => exists_slice items before (clamps stop).le_length⟩
    exact List.drop_eq_nil_of_le ((List.length_take_le _ _).trans behind)
  · refine ⟨_, _, _, Strings.gives_count_array items, gives_slice_front small (clamps middle),
      gives_slice_back small (clamps middle), ?_⟩
    have gives := gives_concat (items.take (clampPosition items.length middle))
      (items.drop (clampPosition items.length middle))
    rwa [List.take_append_drop] at gives
  · refine ⟨_, _, gives_slice small (clamps start) (clamps middle),
      gives_slice small (clamps middle) (clamps stop), ?_⟩
    have before := (clamps start).mono_of_compare (clamps middle) low forward
    have forward' : ¬middle.IsNegativeNaN := by
      rintro ⟨payload, rfl⟩
      exact low (Number.compare_notNumber_true payload forward)
    have after := (clamps middle).mono_of_compare (clamps stop) high forward'
    rw [slice_append_slice items before after]
    exact gives_slice small (clamps start) (clamps stop)

/-- Bounds that are a fraction and a NaN; a part up to a negative fraction; and three bounds with a
fraction and the infinity among them. -/
theorem slices_join_samples :
    let items : List Value := [.null, .bool true, .string "a"]
    let half : Number := .float (.ofBits 0x3FF8000000000000)
    let infinity : Number := .float (.infinite false)
    (∃ slice front back : List Value,
      Gives "array.slice" [.array items, .number half, .number (.float .nan)] (.array slice) ∧
      items = front ++ slice ++ back ∧ front.length = 1 ∧ (front ++ slice).length = 3) ∧
    (∃ front back : List Value,
      Gives "array.slice" [.array items, .ofInt 0, .number half] (.array front) ∧
      Gives "array.concat" [.array front, .array back] (.array items)) ∧
    ∃ left right : List Value,
      Gives "array.slice" [.array items, .ofInt (-1), .number half] (.array left) ∧
      Gives "array.slice" [.array items, .number half, .number infinity] (.array right) ∧
      Gives "array.slice" [.array items, .ofInt (-1), .number infinity]
        (.array (left ++ right)) := by
  intro items half infinity
  have small : items.length ≤ 2 ^ 64 := by decide
  obtain ⟨within, parts, joined⟩ := slices_join items small
  have place := fun number => Number.clamps_clampPosition small number
  refine ⟨?_, ?_, ?_⟩
  · obtain ⟨first, last, slice, one, two, gives, _, between⟩ := within half (.float .nan)
    obtain rfl : first = 1 := (one.unique (place half)).trans (by decide +kernel)
    obtain rfl : last = 3 := two.unique (.unknown rfl)
    obtain ⟨front, back, same, start, stop⟩ := between (by decide)
    exact ⟨slice, front, back, gives, same, start, stop⟩
  · obtain ⟨_, front, back, _, before, _, whole⟩ := parts half
    exact ⟨front, back, before, whole⟩
  · exact joined (.ofInt (-1)) half infinity (by decide +kernel) (by decide +kernel) nofun

/-- From a NaN with a minus sign, which is below zero, to one there is no item, but there is one
from zero to one. -/
theorem not_all_slices_join :
    let items : List Value := [.null]
    let lowest : Number := .float (.ofBits 0xFFF8000000000000)
    (lowest.compare (.ofInt 0) ≠ .gt ∧ (Number.ofInt 0).compare (.ofInt 1) ≠ .gt ∧
      Gives "array.slice" [.array items, .number lowest, .ofInt 0] (.array []) ∧
      Gives "array.slice" [.array items, .ofInt 0, .ofInt 1] (.array items) ∧
      Gives "array.slice" [.array items, .number lowest, .ofInt 1] (.array [])) ∧
    ¬∀ (items : List Value) (start middle stop : Number), items.length ≤ 2 ^ 64 →
      start.compare middle ≠ .gt → middle.compare stop ≠ .gt → ∃ left right : List Value,
        Gives "array.slice" [.array items, .number start, .number middle] (.array left) ∧
        Gives "array.slice" [.array items, .number middle, .number stop] (.array right) ∧
        Gives "array.slice" [.array items, .number start, .number stop]
          (.array (left ++ right)) := by
  intro items lowest
  have small : items.length ≤ 2 ^ 64 := by decide
  have order : lowest.compare (.ofInt 0) ≠ .gt ∧ (Number.ofInt 0).compare (.ofInt 1) ≠ .gt := by
    decide +kernel
  have first : Clamps items.length lowest 1 := by
    have clamps := Number.clamps_clampPosition small lowest
    rwa [show clampPosition items.length lowest = 1 by decide +kernel] at clamps
  have zero : Clamps items.length (.ofInt 0) 0 := Number.clamps_ofNat 0 items.length
  have one : Clamps items.length (.ofInt 1) 1 := Number.clamps_ofNat 1 items.length
  have left := gives_slice small first zero
  have right := gives_slice small zero one
  have both := gives_slice small first one
  refine ⟨⟨order.1, order.2, left, right, both⟩, fun all => ?_⟩
  obtain ⟨left', right', one', two', both'⟩ := all items lowest _ _ small order.1 order.2
  have joined := Value.array.inj (both'.unique both)
  rw [Value.array.inj (one'.unique left), Value.array.inj (two'.unique right)] at joined
  cases joined

end Builtin.Collections

end Rego
