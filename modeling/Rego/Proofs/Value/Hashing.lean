import Rego.Proofs.Number.Whole
import Rego.Proofs.Value.Fields
import Rego.Value.Hash

/-!
# Equal values are hashed alike

A number feeds a hasher the item of its integral value, or the bits of its double when it has none,
so the items of two numbers are the same exactly when the numbers are equal (`hashItem_eq_iff`).
A container announces its length before its parts, and a value its kind before everything else, so
the items of a value end where they end whatever comes after them (`hashItems_append_iff`). Hence
two values feed the same items exactly when they are equal (`hashItems_eq_iff`).
-/

namespace Rego

set_option autoImplicit false

/-! ## Numbers -/

namespace Number

/-- The item of an integer. -/
def wholeItem (whole : Int) : HashItem := if FitsWord whole then .word whole else .big whole

theorem wholeItem_injective : Function.Injective wholeItem := by
  intro left right same
  unfold wholeItem at same
  split at same <;> split at same <;> cases same <;> rfl

/-- A number of integral value feeds the item of that integer, however it is written. -/
theorem hashItem_of_toInt? {number : Number} {whole : Int} (integral : number.toInt? = some whole) :
    number.hashItem = wholeItem whole := by
  cases number with
  | word value =>
      cases integral
      have fits : FitsWord value.toInt := ⟨Int64.le_toInt value, Int64.toInt_lt value⟩
      exact (if_pos fits).symm
  | @big value outside =>
      cases integral
      exact (if_neg outside).symm
  | float value =>
      have whole_value : value.toInt? = some whole := integral
      simp only [hashItem, whole_value, wholeItem]

theorem hashItem_of_fraction {value : Double} (fractional : value.toInt? = none) :
    (Number.float value).hashItem = .bits value.toBits := by
  simp only [hashItem, fractional]

theorem wholeItem_ne_bits (whole : Int) (bits : Nat) : wholeItem whole ≠ .bits bits := by
  unfold wholeItem
  split <;> exact nofun

/-- **Numbers feed the same item exactly when they are equal.** -/
theorem hashItem_eq_iff {left right : Number} :
    left.hashItem = right.hashItem ↔ left.compare right = .eq := by
  constructor
  · intro same
    cases one : left.toInt? with
    | some whole =>
        rw [hashItem_of_toInt? one] at same
        cases two : right.toInt? with
        | some other =>
            rw [hashItem_of_toInt? two] at same
            rw [wholeItem_injective same] at one
            exact compare_of_toInt? one two
        | none =>
            obtain ⟨value, rfl⟩ := exists_float_of_toInt? two
            rw [hashItem_of_fraction two] at same
            exact absurd same (wholeItem_ne_bits whole _)
    | none =>
        obtain ⟨value, rfl⟩ := exists_float_of_toInt? one
        rw [hashItem_of_fraction one] at same
        cases two : right.toInt? with
        | some other =>
            rw [hashItem_of_toInt? two] at same
            exact absurd same.symm (wholeItem_ne_bits other _)
        | none =>
            obtain ⟨value', rfl⟩ := exists_float_of_toInt? two
            rw [hashItem_of_fraction two, HashItem.bits.injEq] at same
            rw [Double.toBits_injective same]
            exact Std.ReflCmp.compare_self
  · intro same
    rcases whole_or_same same with ⟨whole, one, two⟩ | ⟨_, rfl⟩
    · rw [hashItem_of_toInt? one, hashItem_of_toInt? two]
    · rfl

end Number

/-! ## Values -/

namespace Value

/-- Values of different kinds are told apart by their first item. -/
theorem hashItems_append_iff_of_kind_ne {left right : Value} (different : left.kind ≠ right.kind)
    (rest others : List HashItem) :
    left.hashItems ++ rest = right.hashItems ++ others ↔
      left.equals right = true ∧ rest = others := by
  constructor
  · intro same
    have ranks : left.kind.rank = right.kind.rank := by
      unfold hashItems at same
      exact HashItem.kind.inj (List.cons.inj same).1
    exact absurd (rank_injective ranks) different
  · rintro ⟨same, _⟩
    exact absurd (kind_eq_of_equals same) different

/-- Containers of one kind announce their lengths, and their parts follow. -/
theorem announced_append_iff {kind count count' : Nat} {parts parts' rest others : List HashItem} :
    (.kind kind :: .length count :: parts) ++ rest =
        (.kind kind :: .length count' :: parts') ++ others ↔
      count = count' ∧ parts ++ rest = parts' ++ others := by
  simp

mutual

/-- The items of a value end where they end, whatever comes after them. -/
theorem hashItems_append_iff : ∀ (left right : Value) (rest others : List HashItem),
    left.hashItems ++ rest = right.hashItems ++ others ↔
      left.equals right = true ∧ rest = others
  | .null, right, rest, others => by
      cases right with
      | null => simp [hashItems, equals]
      | _ => exact hashItems_append_iff_of_kind_ne (by nofun) rest others
  | .undefined, right, rest, others => by
      cases right with
      | undefined => simp [hashItems, equals]
      | _ => exact hashItems_append_iff_of_kind_ne (by nofun) rest others
  | .bool payload, right, rest, others => by
      cases right with
      | bool other => simp [hashItems, equals, kind]
      | _ => exact hashItems_append_iff_of_kind_ne (by nofun) rest others
  | .number payload, right, rest, others => by
      cases right with
      | number other =>
          have numbers : (Value.number payload).equals (.number other) = true ↔
              payload.hashItem = other.hashItem :=
            equals_iff.trans Number.hashItem_eq_iff.symm
          rw [numbers]
          simp [hashItems, kind]
      | _ => exact hashItems_append_iff_of_kind_ne (by nofun) rest others
  | .string payload, right, rest, others => by
      cases right with
      | string other => simp [hashItems, equals, kind]
      | _ => exact hashItems_append_iff_of_kind_ne (by nofun) rest others
  | .array items, right, rest, others => by
      cases right with
      | array items' =>
          exact announced_append_iff.trans (hashMembers_append_iff items items' rest others)
      | _ => exact hashItems_append_iff_of_kind_ne (by nofun) rest others
  | .object fields, right, rest, others => by
      cases right with
      | object fields' =>
          exact announced_append_iff.trans (hashFields_append_iff fields fields' rest others)
      | _ => exact hashItems_append_iff_of_kind_ne (by nofun) rest others
  | .set members, right, rest, others => by
      cases right with
      | set members' =>
          exact announced_append_iff.trans (hashMembers_append_iff members members' rest others)
      | _ => exact hashItems_append_iff_of_kind_ne (by nofun) rest others

theorem hashMembers_append_iff : ∀ (left right : List Value) (rest others : List HashItem),
    left.length = right.length ∧ hashMembers left ++ rest = hashMembers right ++ others ↔
      equalItems left right = true ∧ rest = others
  | [], [], rest, others => by simp [hashMembers, equalItems]
  | [], _ :: _, rest, others => by simp [equalItems]
  | _ :: _, [], rest, others => by simp [equalItems]
  | item :: items, other :: items', rest, others => by
      have first := hashItems_append_iff item other (hashMembers items ++ rest)
        (hashMembers items' ++ others)
      have later := hashMembers_append_iff items items' rest others
      simp only [hashMembers, equalItems, List.append_assoc, List.length_cons, Nat.succ_inj,
        Bool.and_eq_true, first]
      rw [and_left_comm, later, and_assoc]

theorem hashFields_append_iff : ∀ (left right : List (Value × Value))
    (rest others : List HashItem),
    left.length = right.length ∧ hashFields left ++ rest = hashFields right ++ others ↔
      equalFields left right = true ∧ rest = others
  | [], [], rest, others => by simp [hashFields, equalFields]
  | [], _ :: _, rest, others => by simp [equalFields]
  | _ :: _, [], rest, others => by simp [equalFields]
  | (key, value) :: fields, (key', value') :: fields', rest, others => by
      have first := hashItems_append_iff key key' (hashItems value ++ (hashFields fields ++ rest))
        (hashItems value' ++ (hashFields fields' ++ others))
      have second := hashItems_append_iff value value' (hashFields fields ++ rest)
        (hashFields fields' ++ others)
      have later := hashFields_append_iff fields fields' rest others
      simp only [hashFields, equalFields, List.append_assoc, List.length_cons, Nat.succ_inj,
        Bool.and_eq_true, first, second]
      rw [and_left_comm, and_left_comm (b := value.equals value' = true), later, and_assoc,
        and_assoc]

end

/-- **Values feed a hasher the same items exactly when they are equal.** -/
theorem hashItems_eq_iff (left right : Value) :
    left.hashItems = right.hashItems ↔ left.equals right = true := by
  have parts := hashItems_append_iff left right [] []
  rwa [List.append_nil, List.append_nil, eq_self, and_true] at parts

end Value

end Rego
