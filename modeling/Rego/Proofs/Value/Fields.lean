import Rego.Proofs.Value.Order
import Rego.Value.Collection

/-!
# Fields in ascending order

A key is looked up among fields by equality of values, so equal keys find the same value
(`get?_congr`). Among ascending fields a key has one place: setting its value either changes the
field that is there (`exists_put_of_get?_eq_some`) or adds one between the smaller and the larger
keys (`exists_put_of_get?_eq_none`), and keeps the fields ascending (`ascending_put`).
-/

namespace Rego

set_option autoImplicit false

namespace Value

/-! ## Equality is an equivalence -/

@[simp] theorem equals_refl (value : Value) : value.equals value = true :=
  equals_iff.mpr (compare_self value)

theorem equals_symm {left right : Value} (same : left.equals right = true) :
    right.equals left = true :=
  equals_iff.mpr (Std.OrientedCmp.eq_symm (equals_iff.mp same))

theorem equals_trans {first second third : Value} (one : first.equals second = true)
    (two : second.equals third = true) : first.equals third = true :=
  equals_iff.mpr (Std.TransCmp.eq_trans (equals_iff.mp one) (equals_iff.mp two))

/-- Equal values are of one kind. -/
theorem kind_eq_of_equals {left right : Value} (same : left.equals right = true) :
    left.kind = right.kind := by
  cases left <;> cases right <;> first | rfl | cases same

end Value

namespace Fields

open Value

/-- The keys of fields ascend strictly. -/
def Ascending (fields : List (Value × Value)) : Prop :=
  fields.Pairwise fun left right => left.1.compare right.1 = .lt

theorem ascending_iff_keys {fields : List (Value × Value)} :
    Ascending fields ↔
      (fields.map Prod.fst).Pairwise fun left right => left.compare right = .lt := by
  rw [List.pairwise_map]
  rfl

/-! ## Looking up keys -/

theorem get?_congr {key other : Value} (same : key.compare other = .eq)
    (fields : List (Value × Value)) : get? key fields = get? other fields := by
  induction fields with
  | nil => rfl
  | cons field rest ih =>
      unfold get?
      rw [Std.TransCmp.congr_left same, ih]

/-- A key that is found stands before all fields in which it might be found again. -/
theorem exists_split_of_get? {key value : Value} {fields : List (Value × Value)}
    (found : get? key fields = some value) :
    ∃ front stored back, fields = front ++ (stored, value) :: back ∧ key.compare stored = .eq := by
  induction fields with
  | nil => cases found
  | cons field rest ih =>
      unfold get? at found
      by_cases here : key.compare field.1 = .eq
      · rw [if_pos (beq_iff_eq.mpr here)] at found
        cases found
        exact ⟨[], field.1, rest, rfl, here⟩
      · rw [if_neg (by simpa using here)] at found
        obtain ⟨front, stored, back, rfl, same⟩ := ih found
        exact ⟨field :: front, stored, back, rfl, same⟩

/-- What is found under a key is the value of a field with an equal key. -/
theorem exists_mem_of_get? {key value : Value} {fields : List (Value × Value)}
    (found : get? key fields = some value) :
    ∃ stored, (stored, value) ∈ fields ∧ key.compare stored = .eq := by
  obtain ⟨front, stored, back, rfl, same⟩ := exists_split_of_get? found
  exact ⟨stored, List.mem_append_right _ List.mem_cons_self, same⟩

theorem get?_cons_of_lt {key : Value} {field : Value × Value} (later : field.1.compare key = .lt)
    (rest : List (Value × Value)) : get? key (field :: rest) = get? key rest := by
  have apart : ¬key.compare field.1 = .eq := by
    rw [Std.OrientedCmp.gt_of_lt later]
    decide
  rw [get?, if_neg (by simpa using apart)]

/-- A key before the least one is not found. -/
theorem get?_eq_none_of_lt {key : Value} {field : Value × Value} {rest : List (Value × Value)}
    (ascending : Ascending (field :: rest)) (before : key.compare field.1 = .lt) :
    get? key (field :: rest) = none := by
  induction rest generalizing field with
  | nil => simp only [get?, before]; rfl
  | cons next rest ih =>
      obtain ⟨least, later⟩ := List.pairwise_cons.mp ascending
      have step := ih later (Std.TransCmp.lt_trans before (least next List.mem_cons_self))
      rw [get?, step]
      simp only [before]
      rfl

/-- Each of ascending fields is found under its key. -/
theorem get?_of_mem {fields : List (Value × Value)} (ascending : Ascending fields)
    {field : Value × Value} (member : field ∈ fields) : get? field.1 fields = some field.2 := by
  induction fields with
  | nil => cases member
  | cons first rest ih =>
      obtain ⟨least, later⟩ := List.pairwise_cons.mp ascending
      rcases List.mem_cons.mp member with rfl | member
      · rw [get?, if_pos (beq_iff_eq.mpr (compare_self _))]
      · rw [get?_cons_of_lt (least field member), ih later member]

/-- Equal fields have equal values under a key. -/
theorem exists_get?_of_equalFields {key value : Value} {fields others : List (Value × Value)}
    (same : equalFields fields others = true) (found : get? key fields = some value) :
    ∃ other, get? key others = some other ∧ value.equals other = true := by
  induction fields generalizing others with
  | nil => cases found
  | cons field rest ih =>
      cases others with
      | nil => cases same
      | cons other others =>
          simp only [equalFields, Bool.and_eq_true, equals_iff] at same
          obtain ⟨⟨keys, values⟩, rests⟩ := same
          unfold get? at found ⊢
          rw [← Std.TransCmp.congr_right keys]
          by_cases here : key.compare field.1 = .eq
          · rw [if_pos (beq_iff_eq.mpr here)] at found ⊢
            cases found
            exact ⟨other.2, rfl, equals_iff.mpr values⟩
          · rw [if_neg (by simpa using here)] at found ⊢
            exact ih rests found

/-! ## Setting keys -/

theorem put_cons_of_lt {key : Value} {field : Value × Value} (later : field.1.compare key = .lt)
    (value : Value) (rest : List (Value × Value)) :
    put key value (field :: rest) = field :: put key value rest := by
  have more : key.compare field.1 = .gt := Std.OrientedCmp.gt_of_lt later
  simp only [put, more]

/-- Where an equal key stands, setting it changes that field only. -/
theorem exists_put_of_get?_eq_some {key value : Value} {fields : List (Value × Value)}
    (ascending : Ascending fields) (found : get? key fields = some value) :
    ∃ front stored back, fields = front ++ (stored, value) :: back ∧
      key.compare stored = .eq ∧
      ∀ new, put key new fields = front ++ (stored, new) :: back := by
  obtain ⟨front, stored, back, rfl, same⟩ := exists_split_of_get? found
  refine ⟨front, stored, back, rfl, same, fun new => ?_⟩
  clear found
  induction front with
  | nil => simp only [List.nil_append, put, same]
  | cons first front ih =>
      obtain ⟨least, later⟩ := List.pairwise_cons.mp ascending
      have before : first.1.compare key = .lt := by
        rw [Std.TransCmp.congr_right same]
        exact least (stored, value) (by simp)
      rw [List.cons_append, put_cons_of_lt before, ih later, List.cons_append]

/-- A new key comes between the smaller and the larger ones. -/
theorem exists_put_of_get?_eq_none {key : Value} {fields : List (Value × Value)}
    (ascending : Ascending fields) (absent : get? key fields = none) :
    ∃ front back, fields = front ++ back ∧ (∀ field ∈ front, field.1.compare key = .lt) ∧
      (∀ field ∈ back, key.compare field.1 = .lt) ∧
      ∀ new, put key new fields = front ++ (key, new) :: back := by
  induction fields with
  | nil => exact ⟨[], [], rfl, nofun, nofun, fun _ => rfl⟩
  | cons first rest ih =>
      obtain ⟨least, later⟩ := List.pairwise_cons.mp ascending
      cases place : key.compare first.1 with
      | lt =>
          refine ⟨[], first :: rest, rfl, nofun, ?_, fun new => by simp only [put, place]; rfl⟩
          intro field member
          rcases List.mem_cons.mp member with rfl | member
          · exact place
          · exact Std.TransCmp.lt_trans place (least field member)
      | eq =>
          rw [get?, if_pos (beq_iff_eq.mpr place)] at absent
          cases absent
      | gt =>
          have before : first.1.compare key = .lt := Std.OrientedCmp.lt_of_gt place
          rw [get?_cons_of_lt before] at absent
          obtain ⟨front, back, rfl, smaller, larger, set⟩ := ih later absent
          refine ⟨first :: front, back, rfl, ?_, larger, fun new => ?_⟩
          · exact List.forall_mem_cons.mpr ⟨before, smaller⟩
          · rw [put_cons_of_lt before, set, List.cons_append]

/-- A key that was set is found with its value. -/
@[simp] theorem get?_put_self (key value : Value) (fields : List (Value × Value)) :
    get? key (put key value fields) = some value := by
  induction fields with
  | nil => simp only [put, get?, compare_self, beq_self_eq_true, if_true]
  | cons field rest ih =>
      unfold put
      cases place : key.compare field.1 with
      | lt => simp only [get?, compare_self, beq_self_eq_true, if_true]
      | eq => simp only [get?, place, beq_self_eq_true, if_true]
      | gt =>
          simp only [get?, place]
          exact ih

/-- Other keys find what they found before a key was set. -/
theorem get?_put_of_ne {key other : Value} (different : other.compare key ≠ .eq) (value : Value)
    (fields : List (Value × Value)) : get? other (put key value fields) = get? other fields := by
  induction fields with
  | nil => simp [put, get?, different]
  | cons field rest ih =>
      unfold put
      cases place : key.compare field.1 with
      | lt => simp [get?, different]
      | eq =>
          have passed : other.compare field.1 ≠ .eq := by
            rw [← Std.TransCmp.congr_right place]
            exact different
          simp [get?, passed]
      | gt => simp only [get?, ih]

/-- Setting a key to the value it has changes nothing. -/
theorem put_eq_self {key value : Value} {fields : List (Value × Value)}
    (ascending : Ascending fields) (found : get? key fields = some value) :
    put key value fields = fields := by
  obtain ⟨front, stored, back, rfl, _, set⟩ := exists_put_of_get?_eq_some ascending found
  exact set value

/-- Setting a key keeps fields ascending. -/
theorem ascending_put {fields : List (Value × Value)} (ascending : Ascending fields)
    (key value : Value) : Ascending (put key value fields) := by
  cases found : get? key fields with
  | some old =>
      obtain ⟨front, stored, back, rfl, _, set⟩ := exists_put_of_get?_eq_some ascending found
      rw [set]
      unfold Ascending at ascending ⊢
      rw [List.pairwise_append, List.pairwise_cons] at ascending ⊢
      obtain ⟨before, after, across⟩ := ascending
      refine ⟨before, after, fun first member => ?_⟩
      exact List.forall_mem_cons.mpr (List.forall_mem_cons.mp (across first member))
  | none =>
      obtain ⟨front, back, rfl, smaller, larger, set⟩ := exists_put_of_get?_eq_none ascending found
      rw [set]
      unfold Ascending at ascending ⊢
      rw [List.pairwise_append] at ascending
      obtain ⟨before, after, across⟩ := ascending
      refine List.pairwise_append.mpr ⟨before, List.pairwise_cons.mpr ⟨larger, after⟩, ?_⟩
      intro first member
      exact List.forall_mem_cons.mpr ⟨smaller first member, across first member⟩

/-- The values of fields after setting a key are the new one and values that were there. -/
theorem mem_put {fields : List (Value × Value)} (ascending : Ascending fields) {key value : Value}
    {field : Value × Value} (member : field ∈ put key value fields) :
    field.2 = value ∨ field ∈ fields := by
  cases found : get? key fields with
  | some old =>
      obtain ⟨front, stored, back, rfl, _, set⟩ := exists_put_of_get?_eq_some ascending found
      rw [set] at member
      rcases List.mem_append.mp member with before | after
      · exact .inr (List.mem_append_left _ before)
      · rcases List.mem_cons.mp after with rfl | after
        · exact .inl rfl
        · exact .inr (List.mem_append_right _ (List.mem_cons_of_mem _ after))
  | none =>
      obtain ⟨front, back, rfl, _, _, set⟩ := exists_put_of_get?_eq_none ascending found
      rw [set] at member
      rcases List.mem_append.mp member with before | after
      · exact .inr (List.mem_append_left _ before)
      · rcases List.mem_cons.mp after with rfl | after
        · exact .inl rfl
        · exact .inr (List.mem_append_right _ after)

/-- The keys of fields after setting a key are the new one and keys that were there. -/
theorem forall_key_put {allowed : Value → Prop} {key : Value} (new : allowed key) (value : Value) :
    ∀ {fields : List (Value × Value)}, (∀ field ∈ fields, allowed field.1) →
      ∀ field ∈ put key value fields, allowed field.1
  | [], _ => List.forall_mem_singleton.mpr new
  | (stored, old) :: rest, all => by
      obtain ⟨first, later⟩ := List.forall_mem_cons.mp all
      unfold put
      cases key.compare stored with
      | lt => exact List.forall_mem_cons.mpr ⟨new, all⟩
      | eq => exact List.forall_mem_cons.mpr ⟨first, later⟩
      | gt => exact List.forall_mem_cons.mpr ⟨first, forall_key_put new value later⟩

/-- The values of fields after setting a key are the new one and values that were there. -/
theorem forall_value_put {allowed : Value → Prop} {value : Value} (new : allowed value)
    (key : Value) : ∀ {fields : List (Value × Value)}, (∀ field ∈ fields, allowed field.2) →
      ∀ field ∈ put key value fields, allowed field.2
  | [], _ => List.forall_mem_singleton.mpr new
  | (stored, old) :: rest, all => by
      obtain ⟨first, later⟩ := List.forall_mem_cons.mp all
      unfold put
      cases key.compare stored with
      | lt => exact List.forall_mem_cons.mpr ⟨new, all⟩
      | eq => exact List.forall_mem_cons.mpr ⟨new, later⟩
      | gt => exact List.forall_mem_cons.mpr ⟨first, forall_value_put new key later⟩

/-! ## Setting many keys -/

/-- Setting equal keys to equal values keeps fields equal. -/
theorem equalFields_put {key other value value' : Value} {fields others : List (Value × Value)}
    (keys : key.compare other = .eq) (values : value.equals value' = true)
    (same : equalFields fields others = true) :
    equalFields (put key value fields) (put other value' others) = true := by
  have first : key.equals other = true := equals_iff.mpr keys
  induction fields generalizing others with
  | nil =>
      cases others with
      | nil => simp only [put, equalFields, first, values, Bool.and_self]
      | cons _ _ => cases same
  | cons field rest ih =>
      cases others with
      | nil => cases same
      | cons stored others =>
          simp only [equalFields, Bool.and_eq_true] at same
          obtain ⟨⟨stored_keys, stored_values⟩, rests⟩ := same
          have places : key.compare field.1 = other.compare stored.1 := by
            rw [Std.TransCmp.congr_left keys, Std.TransCmp.congr_right (equals_iff.mp stored_keys)]
          unfold put
          rw [← places]
          cases key.compare field.1 with
          | lt =>
              simp only [equalFields, first, values, stored_keys, stored_values, rests,
                Bool.and_self]
          | eq => simp only [equalFields, values, stored_keys, rests, Bool.and_self]
          | gt => simp only [equalFields, stored_keys, stored_values, ih rests, Bool.and_self]

/-- The key of the first of ascending fields is not found among the others. -/
theorem get?_rest_eq_none {key value : Value} {rest : List (Value × Value)}
    (ascending : Ascending ((key, value) :: rest)) : get? key rest = none := by
  cases rest with
  | nil => rfl
  | cons next rest =>
      obtain ⟨least, later⟩ := List.pairwise_cons.mp ascending
      exact get?_eq_none_of_lt later (least next List.mem_cons_self)

theorem ascending_foldl_put {fields : List (Value × Value)} (ascending : Ascending fields)
    (entries : List (Value × Value)) :
    Ascending (entries.foldl (fun fields entry => put entry.1 entry.2 fields) fields) := by
  induction entries generalizing fields with
  | nil => exact ascending
  | cons entry rest ih => exact ih (ascending_put ascending entry.1 entry.2)

/-- After ascending entries were set, each key finds the entry with it, or else what it found
before. -/
theorem get?_foldl_put (key : Value) {entries : List (Value × Value)}
    (ascending : Ascending entries) (fields : List (Value × Value)) :
    get? key (entries.foldl (fun fields entry => put entry.1 entry.2 fields) fields) =
      (get? key entries).or (get? key fields) := by
  induction entries generalizing fields with
  | nil => rfl
  | cons entry rest ih =>
      rw [List.foldl_cons, ih (List.pairwise_cons.mp ascending).2, get?]
      by_cases here : key.compare entry.1 = .eq
      · rw [if_pos (beq_iff_eq.mpr here), get?_congr here, get?_congr here,
          get?_rest_eq_none ascending, get?_put_self]
        rfl
      · rw [if_neg (by simpa using here), get?_put_of_ne here]

/-- Equal entries give equal fields. -/
theorem equalFields_ofList {entries others : List (Value × Value)}
    (same : equalFields entries others = true) :
    equalFields (ofList entries) (ofList others) = true := by
  suffices ∀ fields fields', equalFields fields fields' = true →
      equalFields (entries.foldl (fun fields entry => put entry.1 entry.2 fields) fields)
        (others.foldl (fun fields entry => put entry.1 entry.2 fields) fields') = true from
    this [] [] rfl
  induction entries generalizing others with
  | nil =>
      cases others with
      | nil => exact fun _ _ before => before
      | cons _ _ => cases same
  | cons entry rest ih =>
      cases others with
      | nil => cases same
      | cons other others =>
          simp only [equalFields, Bool.and_eq_true, equals_iff] at same
          obtain ⟨⟨keys, values⟩, rests⟩ := same
          intro fields fields' before
          exact ih rests _ _ (equalFields_put keys (equals_iff.mpr values) before)

/-- The keys of fields made of entries are keys of entries. -/
theorem forall_key_ofList {allowed : Value → Prop} {entries : List (Value × Value)}
    (all : ∀ entry ∈ entries, allowed entry.1) : ∀ field ∈ ofList entries, allowed field.1 := by
  suffices ∀ fields : List (Value × Value), (∀ field ∈ fields, allowed field.1) →
      ∀ field ∈ entries.foldl (fun fields entry => put entry.1 entry.2 fields) fields,
        allowed field.1 from this [] fun _ member => absurd member List.not_mem_nil
  induction entries with
  | nil => exact fun _ before => before
  | cons entry rest ih =>
      obtain ⟨first, later⟩ := List.forall_mem_cons.mp all
      intro fields before
      exact ih later _ (forall_key_put first entry.2 before)

/-- The values of fields made of entries are values of entries. -/
theorem forall_value_ofList {allowed : Value → Prop} {entries : List (Value × Value)}
    (all : ∀ entry ∈ entries, allowed entry.2) : ∀ field ∈ ofList entries, allowed field.2 :=
  List.foldlRecOn
    (motive := fun fields : List (Value × Value) => ∀ field ∈ fields, allowed field.2)
    entries _ (List.forall_mem_nil _)
    fun _ before entry member => forall_value_put (all entry member) entry.1 before

/-- A key beyond all others comes last. -/
theorem put_of_last {key : Value} (value : Value) {fields : List (Value × Value)}
    (last : ∀ field ∈ fields, field.1.compare key = .lt) :
    put key value fields = fields ++ [(key, value)] := by
  induction fields with
  | nil => rfl
  | cons field rest ih =>
      obtain ⟨first, later⟩ := List.forall_mem_cons.mp last
      rw [put_cons_of_lt first, ih later, List.cons_append]

/-- Ascending entries are fields already. -/
theorem ofList_of_ascending {entries : List (Value × Value)} (ascending : Ascending entries) :
    ofList entries = entries := by
  suffices ∀ fields, Ascending (fields ++ entries) →
      entries.foldl (fun fields entry => put entry.1 entry.2 fields) fields = fields ++ entries from
    this [] ascending
  clear ascending
  induction entries with
  | nil => exact fun fields _ => (List.append_nil fields).symm
  | cons entry rest ih =>
      intro fields ascending
      have last : ∀ field ∈ fields, field.1.compare entry.1 = .lt := fun field member =>
        (List.pairwise_append.mp ascending).2.2 field member entry List.mem_cons_self
      rw [List.foldl_cons, put_of_last entry.2 last, ih, List.append_assoc, List.singleton_append]
      rwa [List.append_assoc, List.singleton_append]

/-- A name finds the last value that is listed under it. -/
theorem get?_ofNamed (name : String) (entries : List (String × Value)) :
    get? (.string name) (ofNamed entries) = entries.reverse.lookup name := by
  suffices ∀ fields, get? (.string name) ((entries.map fun entry => (Value.string entry.1, entry.2)
      ).foldl (fun fields entry => put entry.1 entry.2 fields) fields) =
        (entries.reverse.lookup name).or (get? (.string name) fields) from
    (this []).trans (Option.or_none ..)
  induction entries with
  | nil => exact fun _ => rfl
  | cons entry rest ih =>
      intro fields
      rw [List.map_cons, List.foldl_cons, ih, List.reverse_cons, List.lookup_append, Option.or_assoc]
      congr 1
      by_cases same : name = entry.1
      · rw [same, get?_put_self, List.lookup_cons, beq_self_eq_true]
        rfl
      · have names : (Value.string name).compare (.string entry.1) = compare name entry.1 := rfl
        have different : (Value.string name).compare (.string entry.1) ≠ .eq := by
          rw [names]
          exact fun equal => same (Std.LawfulEqCmp.eq_of_compare equal)
        rw [get?_put_of_ne different, List.lookup_cons, beq_false_of_ne same]
        rfl

/-- The names of fields are those that are listed. -/
theorem isSome_get?_ofNamed (name : String) (entries : List (String × Value)) :
    (get? (.string name) (ofNamed entries)).isSome ↔ name ∈ entries.map Prod.fst := by
  simp only [get?_ofNamed, List.lookup_isSome_iff, List.mem_reverse, beq_iff_eq, List.mem_map]
  exact ⟨fun ⟨entry, member, same⟩ => ⟨entry, member, same.symm⟩,
    fun ⟨entry, member, same⟩ => ⟨entry, member, same.symm⟩⟩

end Fields

end Rego
