import Mathlib.Data.List.Sort
import Rego.Proofs.Builtin.Calls
import Rego.Proofs.Builtin.Words

/-!
# Ranges

A walk from one word to another goes on as long as the next value has not passed the stop. A next
value that has not passed is between two words and so is a word itself: the walk never ends because
the words do, but when it would (`walk_of_passing`). So the values of a walk are as many as steps of
their size fit between the start and the stop, and one more (`walk_eq`), and they are all values at
whole numbers of steps from the start that have not passed the stop (`mem_progression_iff`).

Calls for ranges give these progressions for arguments that stand for words and fail for all others
(`ranges_complete`).
-/

namespace Rego.Builtin.Arithmetic

set_option autoImplicit false

open Argument (IsWord integer_of_isWord integer_bind_fails)
open Number (FitsWord)
open Registry (Gives Fails)

variable {direction : Direction} {step : Step} {start stop value : Int} {passed : List Int}

/-! ## Directions -/

namespace Direction

@[simp]
theorem within_upward : upward.within stop value = true ↔ value ≤ stop := decide_eq_true_iff

@[simp]
theorem within_downward : downward.within stop value = true ↔ stop ≤ value := decide_eq_true_iff

/-- The value some steps further. -/
def after (direction : Direction) (step : Step) (value : Int) (steps : Nat) : Int :=
  match direction with
  | .upward => value + steps * step.size
  | .downward => value - steps * step.size

theorem after_zero (direction : Direction) (step : Step) (value : Int) :
    direction.after step value 0 = value := by
  cases direction <;> simp [after]

theorem after_further (direction : Direction) (step : Step) (value : Int) (steps : Nat) :
    direction.after step (direction.further step value) steps =
      direction.after step value (steps + 1) := by
  cases direction <;> simp only [after, further] <;> push_cast <;> ring

theorem map_after_range_succ (direction : Direction) (step : Step) (value : Int) (count : Nat) :
    (List.range (count + 1)).map (direction.after step value) =
      value :: (List.range count).map (direction.after step (direction.further step value)) := by
  have shifted : direction.after step value ∘ Nat.succ =
      direction.after step (direction.further step value) :=
    funext fun index => (after_further direction step value index).symm
  rw [List.range_succ_eq_map, List.map_cons, List.map_map, after_zero, shifted]

/-- Between two words there are words only. -/
theorem fitsWord_further (first : FitsWord value) (last : FitsWord stop)
    (goes : direction.within stop (direction.further step value) = true) :
    FitsWord (direction.further step value) := by
  have positive := step.positive
  obtain ⟨least, most⟩ := first
  obtain ⟨lower, upper⟩ := last
  cases direction with
  | upward =>
      rw [within_upward] at goes
      exact ⟨by simp only [further]; omega, Int.lt_of_le_of_lt goes upper⟩
  | downward =>
      rw [within_downward] at goes
      exact ⟨lower.trans goes, by simp only [further]; omega⟩

/-- How many steps fit between a value and a stop. -/
def room (step : Step) (stop value : Int) : Nat := (stop - value).natAbs / step.size.toNat

theorem toNat_size_pos (step : Step) : 0 < step.size.toNat := by
  have := step.positive
  omega

/-- A further value that has not passed has room for one step less. -/
theorem room_further (goes : direction.within stop (direction.further step value) = true) :
    room step stop value = room step stop (direction.further step value) + 1 := by
  have apart : (stop - value).natAbs =
      (stop - direction.further step value).natAbs + step.size.toNat := by
    have positive := step.positive
    cases direction <;> simp only [within_upward, within_downward, further] at goes ⊢ <;> omega
  rw [room, apart, Nat.add_div_right _ (toNat_size_pos step)]
  rfl

/-- In front of a value that has passed there is no room. -/
theorem room_of_passing (inside : direction.within stop value = true)
    (passes : ¬direction.within stop (direction.further step value) = true) :
    room step stop value = 0 := by
  refine Nat.div_eq_of_lt ?_
  cases direction <;> simp only [within_upward, within_downward, further] at inside passes <;>
    omega

/-- The values that have not passed are those there is room for. -/
theorem within_after_iff (inside : direction.within stop value = true) (steps : Nat) :
    direction.within stop (direction.after step value steps) = true ↔
      steps ≤ room step stop value := by
  have product : ((steps * step.size.toNat : Nat) : Int) = steps * step.size := by
    rw [Int.natCast_mul, Int.toNat_of_nonneg step.positive.le]
  rw [room, Nat.le_div_iff_mul_le (toNat_size_pos step)]
  cases direction <;> simp only [within_upward, within_downward, after, ← product] at inside ⊢ <;>
    omega

end Direction

open Direction

/-! ## Walks -/

theorem walk_of_going (inside : direction.within stop value = true)
    (fits : FitsWord (direction.further step value)) :
    walk direction step stop passed value =
      walk direction step stop (value :: passed) (direction.further step value) := by
  rw [walk, dif_pos inside, if_pos fits]

/-- A value whose next has passed the stop is the last one, whether or not its next is a word. -/
theorem walk_of_passing (inside : direction.within stop value = true)
    (passes : ¬direction.within stop (direction.further step value) = true) :
    walk direction step stop passed value = passed.reverse ++ [value] := by
  rw [walk, dif_pos inside, ← List.reverse_cons]
  split
  · rw [walk, dif_neg passes]
  · rfl

/-- **A walk between words passes all values that there is room for.** -/
theorem walk_eq (first : FitsWord value) (last : FitsWord stop)
    (inside : direction.within stop value = true) :
    walk direction step stop passed value = passed.reverse ++
      (List.range (room step stop value + 1)).map (direction.after step value) := by
  -- the induction is on the room that is left; the values passed before are in the accumulator
  induction left : room step stop value generalizing passed value with
  | zero =>
      have passes : ¬direction.within stop (direction.further step value) = true := by
        intro goes
        rw [room_further goes] at left
        cases left
      rw [walk_of_passing inside passes, List.range_one, List.map_singleton, after_zero]
  | succ steps ih =>
      have goes : direction.within stop (direction.further step value) = true := by
        by_contra passes
        rw [room_of_passing inside passes] at left
        cases left
      have fits := fitsWord_further first last goes
      have rest := room_further goes ▸ left
      rw [walk_of_going inside fits, ih fits goes (Nat.succ.inj rest), List.reverse_cons,
        List.append_assoc, map_after_range_succ direction step value (steps + 1)]
      rfl

/-! ## Progressions -/

/-- The direction from a start to a stop. -/
def towards (start stop : Int) : Direction := if start ≤ stop then .upward else .downward

theorem within_towards (start stop : Int) : (towards start stop).within stop start = true := by
  rw [towards]
  split
  · rwa [within_upward]
  · rw [within_downward]
    omega

section Words

variable (first : FitsWord start) (last : FitsWord stop)

include first last

/-- **A progression consists of the values there is room for,** one step apart. -/
theorem progression_eq : progression start stop step =
    (List.range (room step stop start + 1)).map ((towards start stop).after step start) :=
  walk_eq first last (within_towards start stop)

theorem length_progression :
    (progression start stop step).length = (stop - start).natAbs / step.size.toNat + 1 := by
  rw [progression_eq first last, List.length_map, List.length_range]
  rfl

/-- **The values of a progression are all that have not passed the stop** among those at whole
numbers of steps from the start. -/
theorem mem_progression_iff : value ∈ progression start stop step ↔
    (∃ steps : Nat, value = (towards start stop).after step start steps) ∧
      (towards start stop).within stop value = true := by
  rw [progression_eq first last, List.mem_map]
  constructor
  · rintro ⟨steps, counted, rfl⟩
    rw [List.mem_range, Nat.lt_succ_iff] at counted
    exact ⟨⟨steps, rfl⟩, (within_after_iff (within_towards start stop) steps).mpr counted⟩
  · rintro ⟨⟨steps, rfl⟩, inside⟩
    rw [within_after_iff (within_towards start stop)] at inside
    exact ⟨steps, List.mem_range.mpr (Nat.lt_succ_of_le inside), rfl⟩

theorem pairwise_progression {relation : Int → Int → Prop}
    (ordered : ∀ fewer more : Nat, fewer < more → relation
      ((towards start stop).after step start fewer) ((towards start stop).after step start more)) :
    (progression start stop step).Pairwise relation := by
  rw [progression_eq first last, List.pairwise_map]
  exact List.pairwise_lt_range.imp fun less => ordered _ _ less

theorem upward_progression (up : start ≤ stop) :
    (progression start stop step).Pairwise (· < ·) ∧
      ∀ value, value ∈ progression start stop step ↔
        (∃ steps : Nat, value = start + steps * step.size) ∧ value ≤ stop := by
  have direction : towards start stop = .upward := if_pos up
  refine ⟨pairwise_progression first last ?_, ?_⟩
  · intro fewer more less
    rw [direction]
    have times := Int.mul_lt_mul_of_pos_right (Int.ofNat_lt.mpr less) step.positive
    exact Int.add_lt_add_left times start
  · intro value
    rw [mem_progression_iff first last, direction, within_upward]
    rfl

theorem downward_progression (down : stop < start) :
    (progression start stop step).Pairwise (· > ·) ∧
      ∀ value, value ∈ progression start stop step ↔
        (∃ steps : Nat, value = start - steps * step.size) ∧ stop ≤ value := by
  have direction : towards start stop = .downward := if_neg (Int.not_le.mpr down)
  refine ⟨pairwise_progression first last ?_, ?_⟩
  · intro fewer more less
    rw [direction]
    have times := Int.mul_lt_mul_of_pos_right (Int.ofNat_lt.mpr less) step.positive
    exact Int.sub_lt_sub_left times start
  · intro value
    rw [mem_progression_iff first last, direction, within_downward]
    rfl

end Words

/-- The step from an integer to the next. -/
def single : Step := ⟨1, Int.one_pos⟩

@[simp]
theorem single_size : single.size = 1 := rfl

theorem progression_reverse_of_lt (first : FitsWord start) (last : FitsWord stop)
    (less : start < stop) :
    progression stop start single = (progression start stop single).reverse := by
  obtain ⟨ascending, there⟩ := @upward_progression single start stop first last less.le
  obtain ⟨descending, back⟩ := @downward_progression single stop start last first less
  refine descending.eq_of_mem_iff (List.pairwise_reverse.mpr ascending) fun value => ?_
  simp only [List.mem_reverse, there, back, single_size, mul_one]
  constructor
  · rintro ⟨⟨steps, rfl⟩, inside⟩
    exact ⟨⟨(stop - steps - start).toNat, by omega⟩, by omega⟩
  · rintro ⟨⟨steps, rfl⟩, inside⟩
    exact ⟨⟨(stop - (start + steps)).toNat, by omega⟩, by omega⟩

/-- **In single steps, the way back is the way there backwards.** -/
theorem progression_reverse (first : FitsWord start) (last : FitsWord stop) :
    progression stop start single = (progression start stop single).reverse := by
  rcases Int.lt_trichotomy start stop with less | rfl | more
  · exact progression_reverse_of_lt first last less
  · have alone : (progression start start single).length = 1 := by
      rw [length_progression first first, Int.sub_self]
      rfl
    obtain ⟨value, only⟩ := List.length_eq_one_iff.mp alone
    rw [only]
    rfl
  · rw [progression_reverse_of_lt last first more, List.reverse_reverse]

/-! ## Calls -/

section Calls

variable {first second third : Value}

theorem range_fails (name : String)
    (other : ∃ argument ∈ [first, second], ∀ whole, ¬IsWord argument whole) :
    ∃ cause, range name first second = failed name cause := by
  refine integer_bind_fails fun start one => integer_bind_fails fun stop two => ?_
  obtain ⟨argument, member, none⟩ := other
  rcases List.mem_pair.mp member with rfl | rfl
  · exact absurd one (none start)
  · exact absurd two (none stop)

theorem rangeStep_fails (name : String)
    (other : ∃ argument ∈ [first, second, third], ∀ whole, ¬IsWord argument whole) :
    ∃ cause, rangeStep name first second third = failed name cause := by
  refine integer_bind_fails fun start one => integer_bind_fails fun stop two =>
    integer_bind_fails fun size three => ?_
  obtain ⟨argument, member, none⟩ := other
  simp only [List.mem_cons, List.not_mem_nil, or_false] at member
  rcases member with rfl | rfl | rfl
  · exact absurd one (none start)
  · exact absurd two (none stop)
  · exact absurd three (none size)

theorem find?_numbersRange : Registry.standard.find? "numbers.range" =
    some (binary Declared.numbersRange range) := rfl

theorem find?_numbersRangeStep : Registry.standard.find? "numbers.range_step" =
    some (ternary Declared.numbersRangeStep rangeStep) := rfl

theorem gives_range (one : IsWord first start) (two : IsWord second stop) :
    Gives "numbers.range" [first, second] (rangeValue start stop single) := by
  have ran : range "numbers.range" first second = .ok (rangeValue start stop single) := by
    rw [range, integer_of_isWord one, integer_of_isWord two]
    rfl
  obtain ⟨_, rfl, _⟩ := one
  obtain ⟨_, rfl, _⟩ := two
  exact Registry.gives_of_run find?_numbersRange (by decide) (Registry.check_ok rfl rfl) ran

theorem gives_rangeStep {size : Int} (one : IsWord first start) (two : IsWord second stop)
    (three : IsWord third size) (positive : 0 < size) :
    Gives "numbers.range_step" [first, second, third] (rangeValue start stop ⟨size, positive⟩) := by
  have ran : rangeStep "numbers.range_step" first second third =
      .ok (rangeValue start stop ⟨size, positive⟩) := by
    rw [rangeStep, integer_of_isWord one, integer_of_isWord two, integer_of_isWord three]
    exact dif_pos positive
  obtain ⟨_, rfl, _⟩ := one
  obtain ⟨_, rfl, _⟩ := two
  obtain ⟨_, rfl, _⟩ := three
  exact Registry.gives_of_run find?_numbersRangeStep (by decide) (Registry.check_ok rfl rfl) ran

theorem fails_rangeStep {size : Int} (one : IsWord first start) (two : IsWord second stop)
    (three : IsWord third size) (backwards : size ≤ 0) :
    Fails "numbers.range_step" [first, second, third] (.stepNotPositive size) := by
  have ran : rangeStep "numbers.range_step" first second third =
      failed "numbers.range_step" (.stepNotPositive size) := by
    rw [rangeStep, integer_of_isWord one, integer_of_isWord two, integer_of_isWord three]
    exact dif_neg (Int.not_lt.mpr backwards)
  obtain ⟨_, rfl, _⟩ := one
  obtain ⟨_, rfl, _⟩ := two
  obtain ⟨_, rfl, _⟩ := three
  exact Registry.fails_of_run find?_numbersRangeStep (by decide) (Registry.check_ok rfl rfl) ran

end Calls

/-- **Ranges are complete up to the edges of the words.** For a start, a stop and a positive step
that are words, a range is always given, if it fits into memory. It has as many values as steps fit
between the start and the stop, and one more. They are, in ascending order, all integers at whole
numbers of steps above the start that are at most the stop, or in descending order those below the
start that are at least the stop. A step that is not positive is refused.

Without a step the values are one apart, and those from the stop to the start are the same ones
backwards. Whatever is no word is refused in every place. -/
theorem ranges_complete :
    (∀ (first second third : Value) (start stop size : Int), IsWord first start →
      IsWord second stop → IsWord third size →
      (0 < size → ∃ values : List Int,
        (values.length < 2 ^ 63 →
          Gives "numbers.range_step" [first, second, third] (.array (values.map .ofInt))) ∧
        values.length = (stop - start).natAbs / size.toNat + 1 ∧
        (start ≤ stop → values.Pairwise (· < ·) ∧ ∀ value, value ∈ values ↔
          (∃ steps : Nat, value = start + steps * size) ∧ value ≤ stop) ∧
        (stop < start → values.Pairwise (· > ·) ∧ ∀ value, value ∈ values ↔
          (∃ steps : Nat, value = start - steps * size) ∧ stop ≤ value)) ∧
      (size ≤ 0 → Fails "numbers.range_step" [first, second, third] (.stepNotPositive size))) ∧
    (∀ (first second one : Value) (start stop : Int), IsWord first start → IsWord second stop →
      IsWord one 1 → ∃ values : List Value,
        values.length = (stop - start).natAbs + 1 ∧
        (values.length < 2 ^ 63 →
          Gives "numbers.range" [first, second] (.array values) ∧
          Gives "numbers.range_step" [first, second, one] (.array values) ∧
          Gives "numbers.range" [second, first] (.array values.reverse))) ∧
    (∀ first second : Value, (∃ argument ∈ [first, second], ∀ whole, ¬IsWord argument whole) →
      ∃ cause, Fails "numbers.range" [first, second] cause) ∧
    ∀ first second third : Value,
      (∃ argument ∈ [first, second, third], ∀ whole, ¬IsWord argument whole) →
        ∃ cause, Fails "numbers.range_step" [first, second, third] cause := by
  refine ⟨?_, ?_, ?_, ?_⟩
  · intro first second third start stop size one two three
    constructor
    · intro positive
      exact ⟨progression start stop ⟨size, positive⟩,
        fun _ => gives_rangeStep one two three positive,
        length_progression one.fits two.fits, upward_progression one.fits two.fits,
        downward_progression one.fits two.fits⟩
    · exact fails_rangeStep one two three
  · intro first second third start stop one two three
    refine ⟨(progression start stop single).map .ofInt, ?_, fun _ => ⟨gives_range one two,
      gives_rangeStep one two three Int.one_pos, ?_⟩⟩
    · rw [List.length_map, length_progression one.fits two.fits]
      exact congrArg (· + 1) (Nat.div_one _)
    have back := gives_range two one
    rwa [rangeValue, progression_reverse one.fits two.fits, List.map_reverse] at back
  · intro first second other
    exact Registry.exists_fails_of_run find?_numbersRange (by decide) rfl
      (range_fails "numbers.range" other)
  · intro first second third other
    exact Registry.exists_fails_of_run find?_numbersRangeStep (by decide) rfl
      (rangeStep_fails "numbers.range_step" other)

/-- A range that ends one below the last word, where another step leaves the words; the range of the
first three words; a step of zero; and two arguments that are no words. -/
theorem ranges_complete_edges :
    (∃ values : List Int,
      Gives "numbers.range_step" [.ofInt (2 ^ 63 - 4), .ofInt (2 ^ 63 - 1), .ofInt 2]
        (.array (values.map .ofInt)) ∧
      values.length = 2 ∧ 2 ^ 63 - 2 ∈ values) ∧
    Fails "numbers.range_step" [.ofInt 1, .ofInt 2, .ofInt 0] (.stepNotPositive 0) ∧
    (∃ values : List Value,
      Gives "numbers.range" [.ofInt (-(2 ^ 63)), .ofInt (2 - 2 ^ 63)] (.array values) ∧
      Gives "numbers.range" [.ofInt (2 - 2 ^ 63), .ofInt (-(2 ^ 63))] (.array values.reverse)) ∧
    (∃ cause, Fails "numbers.range" [.ofInt 1, .string "2"] cause) ∧
    ∃ cause, Fails "numbers.range_step" [.ofInt (2 ^ 63), .ofInt 1, .ofInt 1] cause := by
  obtain ⟨steps, singles, range, rangeStep⟩ := ranges_complete
  have word : ∀ {whole : Int}, FitsWord whole → IsWord (.ofInt whole) whole :=
    fun fits => Argument.isWord_ofInt_iff.mpr ⟨rfl, fits⟩
  refine ⟨?_, ?_, ?_, ?_, ?_⟩
  · obtain ⟨forwards, _⟩ := steps _ _ _ _ _ _ (word (by decide : FitsWord (2 ^ 63 - 4)))
      (word (by decide : FitsWord (2 ^ 63 - 1))) (word (by decide : FitsWord 2))
    obtain ⟨values, gives, length, up, _⟩ := forwards (by decide)
    have two : values.length = 2 := length
    exact ⟨values, gives (by omega), two, ((up (by decide)).2 _).mpr ⟨⟨1, rfl⟩, by decide⟩⟩
  · exact (steps _ _ _ _ _ _ (word (by decide : FitsWord 1)) (word (by decide : FitsWord 2))
      (word (by decide : FitsWord 0))).2 (by decide)
  · obtain ⟨values, length, gives⟩ := singles _ _ _ _ _
      (word (by decide : FitsWord (-(2 ^ 63)))) (word (by decide : FitsWord (2 - 2 ^ 63)))
      (word (by decide : FitsWord 1))
    have three : values.length = 3 := length
    obtain ⟨there, _, back⟩ := gives (by omega)
    exact ⟨values, there, back⟩
  · refine range _ _ ⟨_, List.mem_cons_of_mem _ List.mem_cons_self, ?_⟩
    rintro whole ⟨_, same, _⟩
    cases same
  · refine rangeStep _ _ _ ⟨_, List.mem_cons_self, ?_⟩
    intro whole word
    exact absurd (Argument.isWord_ofInt_iff.mp word).2 (by decide)

end Rego.Builtin.Arithmetic
