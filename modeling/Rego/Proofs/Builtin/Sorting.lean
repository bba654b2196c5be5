import Mathlib.Data.List.Sort
import Rego.Proofs.Builtin.Calls
import Rego.Proofs.Value.Classes

/-!
# Sorting and extremes

Sorting an array rearranges its items in ascending order (`pairwise_sorted`, `perm_sorted`) and is
stable: the items equal to a value stay in the order in which they stood (`filter_sorted`). The
least item is found by a scan that keeps the first of equal ones, the greatest by one that keeps the
last, so among equal ones the scanned item comes first or last (`Selected`). Stability leaves it
there, and so the extremes are the ends of the sorted array (`head?_sorted`, `getLast?_sorted`). The
members of a set stand in ascending order and are taken as they are. For both kinds of collection
the three builtins agree (`sort_orders`).
-/

namespace Rego.Builtin.Ordering

set_option autoImplicit false

open Registry (Gives)

/-! ## Scanning -/

section Scan

variable {Item : Type} {keeps : Item → Item → Bool}

/-- An item of a list that is chosen over all in front of it and kept over all behind it. -/
inductive Selected (keeps : Item → Item → Bool) : List Item → Item → Prop where
  | here {chosen : Item} {rest : List Item} (kept : ∀ item ∈ rest, keeps chosen item = true) :
      Selected keeps (chosen :: rest) chosen
  | further {first chosen : Item} {rest : List Item} (passed : keeps first chosen = false)
      (later : Selected keeps rest chosen) : Selected keeps (first :: rest) chosen

theorem Selected.mem {items : List Item} {chosen : Item} (selected : Selected keeps items chosen) :
    chosen ∈ items := by
  induction selected with
  | here => exact List.mem_cons_self
  | further _ _ ih => exact List.mem_cons_of_mem _ ih

variable
  (keep_trans : ∀ first second third, keeps first second = true → keeps second third = true →
    keeps first third = true)
  (pass_trans : ∀ first second third, keeps first second = false → keeps second third = false →
    keeps first third = false)

section Step

variable {best item chosen : Item} {rest : List Item}

include keep_trans in
/-- What a scan selects without an item it also selects with it, if it is not better. -/
theorem Selected.keep (kept : keeps best item = true)
    (selected : Selected keeps (best :: rest) chosen) :
    Selected keeps (best :: item :: rest) chosen := by
  cases selected with
  | here all => exact .here (List.forall_mem_cons.mpr ⟨kept, all⟩)
  | further passed later =>
      refine .further passed (.further (Bool.eq_false_iff.mpr fun held => ?_) later)
      exact Bool.false_ne_true (passed.symm.trans (keep_trans _ _ _ kept held))

include pass_trans in
/-- What a scan selects from an item on it also selects when a worse one stands in front. -/
theorem Selected.pass (passed : keeps best item = false)
    (selected : Selected keeps (item :: rest) chosen) :
    Selected keeps (best :: item :: rest) chosen := by
  refine .further ?_ selected
  cases selected with
  | here _ => exact passed
  | further passed' _ => exact pass_trans _ _ _ passed passed'

end Step

include keep_trans pass_trans in
/-- **A scan that holds on to an item as long as this is kept over the next selects an item.** -/
theorem selected_foldl (best : Item) (rest : List Item) : Selected keeps (best :: rest)
    (rest.foldl (fun best item => if keeps best item then best else item) best) := by
  induction rest generalizing best with
  | nil => exact .here nofun
  | cons item rest ih =>
      rw [List.foldl_cons]
      cases kept : keeps best item with
      | true => exact (ih best).keep keep_trans kept
      | false => exact (ih item).pass pass_trans kept

end Scan

/-! ## The order of values -/

variable {first second third value chosen : Value} {items others : List Value}

theorem compare_self_ne_gt (value : Value) : value.compare value ≠ .gt := by
  rw [Value.compare_self]
  exact nofun

theorem compare_ne_gt_of_lt (before : first.compare second = .lt) : first.compare second ≠ .gt := by
  rw [before]
  exact nofun

theorem compare_ne_gt_trans (one : first.compare second ≠ .gt)
    (two : second.compare third ≠ .gt) : first.compare third ≠ .gt :=
  Ordering.isLE_iff_ne_gt.mp (Std.TransCmp.isLE_trans (Ordering.isLE_iff_ne_gt.mpr one)
    (Ordering.isLE_iff_ne_gt.mpr two))

theorem ne_gt_trans (first second third : Value) (one : (first.compare second != .gt) = true)
    (two : (second.compare third != .gt) = true) : (first.compare third != .gt) = true :=
  bne_iff_ne.mpr (compare_ne_gt_trans (bne_iff_ne.mp one) (bne_iff_ne.mp two))

theorem ne_gt_total (first second : Value) :
    (first.compare second != .gt || second.compare first != .gt) = true := by
  rw [Value.compare_swap first second]
  cases first.compare second <;> rfl

theorem selected_least (first : Value) (rest : List Value) :
    Selected (fun left right => left.compare right != .gt) (first :: rest)
      (least (first :: rest)) := by
  have scan : least (first :: rest) = rest.foldl
      (fun best item => if best.compare item != .gt then best else item) first := by
    rw [least]
    congr
    funext best item
    cases best.compare item <;> rfl
  rw [scan]
  refine selected_foldl ne_gt_trans (fun _ _ _ one two => ?_) first rest
  rw [bne_eq_false_iff_eq] at one two ⊢
  exact Std.TransCmp.gt_trans one two

theorem selected_greatest (first : Value) (rest : List Value) :
    Selected (fun left right => left.compare right == .gt) (first :: rest)
      (greatest (first :: rest)) := by
  refine selected_foldl (fun _ _ _ one two => ?_) (fun _ _ _ one two => ?_) first rest
  · rw [beq_iff_eq] at one two ⊢
    exact Std.TransCmp.gt_trans one two
  · rw [beq_eq_false_iff_ne] at one two ⊢
    exact compare_ne_gt_trans one two

/-! ## Extremes -/

/-- The least item does not come after any. -/
theorem compare_least_ne_gt
    (selected : Selected (fun left right => left.compare right != .gt) items chosen) :
    ∀ item ∈ items, chosen.compare item ≠ .gt := by
  induction selected with
  | here kept =>
      exact List.forall_mem_cons.mpr ⟨compare_self_ne_gt _,
        fun item within => bne_iff_ne.mp (kept item within)⟩
  | further passed _ ih =>
      have before := Std.OrientedCmp.gt_iff_lt.mp (bne_eq_false_iff_eq.mp passed)
      exact List.forall_mem_cons.mpr ⟨compare_ne_gt_of_lt before, ih⟩

/-- The least item comes first among the equal ones. -/
theorem head?_filter_least
    (selected : Selected (fun left right => left.compare right != .gt) items chosen) :
    (items.filter (·.equals chosen)).head? = some chosen := by
  induction selected with
  | here _ => rw [List.filter_cons_of_pos (by exact Value.equals_refl _), List.head?_cons]
  | further passed _ ih =>
      rw [List.filter_cons_of_neg, ih]
      rw [Value.equals_eq_compare, bne_eq_false_iff_eq.mp passed]
      exact nofun

/-- No item comes after the greatest. -/
theorem compare_greatest_ne_gt
    (selected : Selected (fun left right => left.compare right == .gt) items chosen) :
    ∀ item ∈ items, item.compare chosen ≠ .gt := by
  induction selected with
  | here kept =>
      refine List.forall_mem_cons.mpr ⟨compare_self_ne_gt _, fun item within => ?_⟩
      exact compare_ne_gt_of_lt (Std.OrientedCmp.gt_iff_lt.mp (beq_iff_eq.mp (kept item within)))
  | further passed _ ih => exact List.forall_mem_cons.mpr ⟨beq_eq_false_iff_ne.mp passed, ih⟩

/-- The greatest item comes last among the equal ones. -/
theorem getLast?_filter_greatest
    (selected : Selected (fun left right => left.compare right == .gt) items chosen) :
    (items.filter (·.equals chosen)).getLast? = some chosen := by
  induction selected with
  | @here chosen rest kept =>
      have alone : rest.filter (·.equals chosen) = [] := by
        refine List.filter_eq_nil_iff.mpr fun item within => ?_
        rw [Value.equals_eq_compare,
          Std.OrientedCmp.gt_iff_lt.mp (beq_iff_eq.mp (kept item within))]
        exact nofun
      rw [List.filter_cons_of_pos (by exact Value.equals_refl _), alone, List.getLast?_singleton]
  | @further first chosen rest _ _ ih =>
      rw [List.filter_cons]
      split
      · rw [List.getLast?_cons, ih, Option.getD_some]
      · exact ih

/-! ## Sorted arrays -/

theorem pairwise_sorted (items : List Value) :
    (sorted items).Pairwise fun first second => first.compare second ≠ .gt :=
  (List.pairwise_mergeSort ne_gt_trans ne_gt_total items).imp bne_iff_ne.mp

theorem perm_sorted (items : List Value) : (sorted items).Perm items := List.mergeSort_perm _ _

/-- What ascends is sorted as it is. -/
theorem sorted_of_pairwise
    (ascending : items.Pairwise fun first second => first.compare second ≠ .gt) :
    sorted items = items :=
  List.mergeSort_of_pairwise (ascending.imp bne_iff_ne.mpr)

/-- **Sorting leaves equal items in the order in which they stood.** -/
theorem filter_sorted (items : List Value) (value : Value) :
    (sorted items).filter (·.equals value) = items.filter (·.equals value) := by
  have same : ∀ item ∈ items.filter (·.equals value), item.equals value = true := fun item within =>
    (List.mem_filter.mp within).2
  -- the items equal to the value ascend among themselves, so all of them keep their order
  have ascending : (items.filter (·.equals value)).Pairwise
      fun first second => (first.compare second != .gt) = true := by
    refine List.pairwise_iff_forall_sublist.mpr fun {first second} pair => ?_
    have equal := Value.equals_trans (same first (pair.subset List.mem_cons_self))
      (Value.equals_symm (same second (pair.subset (List.mem_cons_of_mem _ List.mem_cons_self))))
    rw [Value.equals_iff.mp equal]
    rfl
  have kept := (List.sublist_mergeSort ne_gt_trans ne_gt_total ascending
    List.filter_sublist).filter (·.equals value)
  rw [List.filter_filter] at kept
  simp only [Bool.and_self] at kept
  exact (kept.eq_of_length ((perm_sorted items).filter _).length_eq.symm).symm

variable {front tail : List Value} {head last : Value}

theorem head_compare_ne_gt (order : sorted items = head :: tail) :
    ∀ item ∈ items, head.compare item ≠ .gt := by
  intro item within
  have ascending := pairwise_sorted items
  have placed := (perm_sorted items).mem_iff.mpr within
  rw [order] at ascending placed
  rcases List.mem_cons.mp placed with rfl | later
  · exact compare_self_ne_gt _
  · exact (List.pairwise_cons.mp ascending).1 item later

theorem compare_last_ne_gt (order : sorted items = front ++ [last]) :
    ∀ item ∈ items, item.compare last ≠ .gt := by
  intro item within
  have ascending := pairwise_sorted items
  have placed := (perm_sorted items).mem_iff.mpr within
  rw [order] at ascending placed
  rcases List.mem_append.mp placed with before | same
  · exact (List.pairwise_append.mp ascending).2.2 item before last List.mem_cons_self
  · rw [List.mem_singleton.mp same]
    exact compare_self_ne_gt last

/-- **The least item is the first of the sorted array.** -/
theorem head?_sorted (items : List Value) :
    (sorted items).head?.getD .undefined = least items := by
  cases items with
  | nil => simp [sorted, least]
  | cons first rest =>
      have selected := selected_least first rest
      generalize least (first :: rest) = chosen at selected ⊢
      generalize first :: rest = items at selected ⊢
      have stable := filter_sorted items chosen
      have placed := (perm_sorted items).mem_iff.mpr selected.mem
      cases order : sorted items with
      | nil =>
          rw [order] at placed
          cases placed
      | cons head tail =>
          have member : head ∈ items := (perm_sorted items).mem_iff.mp (order ▸ List.mem_cons_self)
          have same : head.equals chosen = true :=
            Value.equals_of_compare_ne_gt (head_compare_ne_gt order chosen selected.mem)
              (compare_least_ne_gt selected head member)
          -- both come first among the items equal to them, which sorting has left in order
          have ends := congrArg List.head? stable
          rw [order, List.filter_cons_of_pos (by exact same), List.head?_cons,
            head?_filter_least selected] at ends
          exact Option.some.inj ends

/-- **The greatest item is the last of the sorted array.** -/
theorem getLast?_sorted (items : List Value) :
    (sorted items).getLast?.getD .undefined = greatest items := by
  cases items with
  | nil => simp [sorted, greatest]
  | cons first rest =>
      have selected := selected_greatest first rest
      generalize greatest (first :: rest) = chosen at selected ⊢
      generalize first :: rest = items at selected ⊢
      have stable := filter_sorted items chosen
      have placed := (perm_sorted items).mem_iff.mpr selected.mem
      rcases List.eq_nil_or_concat' (sorted items) with order | ⟨front, last, order⟩
      · rw [order] at placed
        cases placed
      · have member : last ∈ items := (perm_sorted items).mem_iff.mp (order ▸ List.mem_concat_self)
        have same : last.equals chosen = true :=
          Value.equals_of_compare_ne_gt (compare_greatest_ne_gt selected last member)
            (compare_last_ne_gt order chosen selected.mem)
        have ends := congrArg List.getLast? stable
        rw [order, List.filter_append, List.filter_cons_of_pos (by exact same), List.filter_nil,
          List.getLast?_concat, getLast?_filter_greatest selected] at ends
        rw [order, List.getLast?_concat, Option.getD_some]
        exact Option.some.inj ends

/-! ## Collections -/

/-- An array and its items, or a set and its members, which ascend. -/
inductive Collects : Value → List Value → Prop where
  | array (items : List Value) : Collects (.array items) items
  | set {members : List Value} (ascending : Members.Ascending members) :
      Collects (.set members) members

variable {collection : Value} {elements : List Value}

/-- **Sorting a collection arranges its elements, and the extremes are the ends.** -/
theorem Collects.exists_ordered (collects : Collects collection elements) :
    ∃ ordered : List Value,
      (∀ name, sort name collection = .ok (.array ordered)) ∧
      (∀ name, min name collection = .ok (ordered.head?.getD .undefined)) ∧
      (∀ name, max name collection = .ok (ordered.getLast?.getD .undefined)) ∧
      (ordered.Pairwise fun first second => first.compare second ≠ .gt) ∧
      ordered.Perm elements ∧
      ∀ value : Value, ordered.filter (·.equals value) = elements.filter (·.equals value) := by
  cases collects with
  | array =>
      refine ⟨sorted elements, fun _ => rfl, fun _ => ?_, fun _ => ?_, pairwise_sorted elements,
        perm_sorted elements, filter_sorted elements⟩
      · rw [head?_sorted, min]
      · rw [getLast?_sorted, max]
  | set ascending =>
      exact ⟨elements, fun _ => rfl, fun _ => rfl, fun _ => rfl,
        ascending.imp compare_ne_gt_of_lt, .refl elements, fun _ => rfl⟩

/-- A builtin that takes arrays and sets of anything gives what it computes from a collection. -/
theorem Collects.gives (collects : Collects collection elements) {name label : String}
    {text : Option String} {types : List Ty} {metadata : Metadata}
    {run : String → Value → Outcome} {value : Value}
    (found : Registry.standard.find? name = some (unary metadata run))
    (fresh : Registry.isKept name metadata = false)
    (declared : metadata.declaration.arguments = [.named label text (.any types)])
    (array : .array [] (some (.any [])) ∈ types) (set : .set (some (.any [])) ∈ types)
    (ran : run metadata.name collection = .ok value) : Gives name [collection] value := by
  have allowed : (Ty.any types).Allows collection := by
    cases collects with
    | array => exact .inr (Ty.admits_any_of_mem (Ty.admits_arrayOfAny elements) array)
    | set => exact .inr (Ty.admits_any_of_mem (Ty.admits_setOfAny elements) set)
  refine Registry.gives_of_run found fresh (Registry.check_of_allows ?_) ran
  rw [declared]
  exact .cons (allowed.named label text) .nil

theorem gives_sort (collects : Collects collection elements)
    (ran : ∀ name, sort name collection = .ok value) : Gives "sort" [collection] value := by
  have found : Registry.standard.find? "sort" = some (unary Declared.sort sort) := rfl
  exact collects.gives found (by decide) rfl List.mem_cons_self
    (List.mem_cons_of_mem _ List.mem_cons_self) (ran _)

theorem gives_min (collects : Collects collection elements)
    (ran : ∀ name, min name collection = .ok value) : Gives "min" [collection] value := by
  have found : Registry.standard.find? "min" = some (unary Declared.min min) := rfl
  exact collects.gives found (by decide) rfl (List.mem_cons_of_mem _ List.mem_cons_self)
    List.mem_cons_self (ran _)

theorem gives_max (collects : Collects collection elements)
    (ran : ∀ name, max name collection = .ok value) : Gives "max" [collection] value := by
  have found : Registry.standard.find? "max" = some (unary Declared.max max) := rfl
  exact collects.gives found (by decide) rfl (List.mem_cons_of_mem _ List.mem_cons_self)
    List.mem_cons_self (ran _)

/-- **Sorting arranges the elements of a collection, and the extremes are its ends.** The elements
of an array or a set become an array that ascends, is a rearrangement of them, and has equal ones in
the order in which they stood. Sorting this array changes nothing. The least and the greatest
element are its first and its last item; they are undefined when there is none, or when this item is
undefined. Arrays that are rearrangements of each other are sorted to equal arrays. -/
theorem sort_orders :
    (∀ (collection : Value) (elements : List Value), Collects collection elements →
      ∃ (ordered : List Value) (least greatest : Value),
        Gives "sort" [collection] (.array ordered) ∧
        (ordered.Pairwise fun first second => first.compare second ≠ .gt) ∧
        ordered.Perm elements ∧
        (∀ value : Value,
          ordered.filter (·.equals value) = elements.filter (·.equals value)) ∧
        Gives "sort" [.array ordered] (.array ordered) ∧
        Gives "min" [collection] least ∧ Gives "max" [collection] greatest ∧
        (∀ first, ordered.head? = some first → least = first) ∧
        (∀ last, ordered.getLast? = some last → greatest = last) ∧
        (least = .undefined ↔ elements = [] ∨ ordered.head? = some .undefined) ∧
        (greatest = .undefined ↔ elements = [] ∨ ordered.getLast? = some .undefined)) ∧
    ∀ items others : List Value, items.Perm others →
      ∃ ordered ordered' : List Value, Gives "sort" [.array items] (.array ordered) ∧
        Gives "sort" [.array others] (.array ordered') ∧
        (Value.array ordered).equals (.array ordered') = true := by
  refine ⟨fun collection elements collects => ?_, fun items others perm => ?_⟩
  · obtain ⟨ordered, sorts, least, greatest, ascending, perm, stable⟩ := collects.exists_ordered
    have again : ∀ name, sort name (.array ordered) = .ok (.array ordered) := fun _ => by
      rw [sort, sorted_of_pairwise ascending]
    have empty : ordered = [] ↔ elements = [] :=
      ⟨fun none => (none ▸ perm).nil_eq.symm, fun none => (none ▸ perm).eq_nil⟩
    refine ⟨ordered, _, _, gives_sort collects sorts, ascending, perm, stable,
      gives_sort (.array ordered) again, gives_min collects least, gives_max collects greatest,
      ?_, ?_, ?_, ?_⟩
    · rintro first there
      rw [there, Option.getD_some]
    · rintro last there
      rw [there, Option.getD_some]
    · rw [Option.getD_eq_iff, List.head?_eq_none_iff, empty]
      tauto
    · rw [Option.getD_eq_iff, List.getLast?_eq_none_iff, empty]
      tauto
  · refine ⟨sorted items, sorted others, gives_sort (.array items) fun _ => rfl,
      gives_sort (.array others) fun _ => rfl, ?_⟩
    exact Value.equalItems_of_perm (pairwise_sorted items) (pairwise_sorted others)
      ((perm_sorted items).trans (perm.trans (perm_sorted others).symm))

/-- Values of several kinds, with a number in two representations and something undefined, in an
array, in its reverse and in a set. -/
theorem sort_orders_mixed :
    let two : Value := .number (.float (.ofBits 0x4000000000000000))
    let items : List Value := [.undefined, .string "a", two, .null, .ofInt 2]
    let members : List Value := [.null, two, .undefined]
    Collects (.array items) items ∧ Collects (.set members) members ∧
      items.Perm items.reverse ∧
      (∃ ordered : List Value, Gives "sort" [.array items] (.array ordered) ∧
        ordered.Perm items ∧ ordered.filter (·.equals two) = [two, .ofInt 2] ∧
        ordered.getLast? = some .undefined ∧ Gives "max" [.array items] .undefined) ∧
      (∃ ordered : List Value, Gives "sort" [.set members] (.array ordered) ∧
        Gives "sort" [.array ordered] (.array ordered)) ∧
      ∃ ordered ordered' : List Value, Gives "sort" [.array items] (.array ordered) ∧
        Gives "sort" [.array items.reverse] (.array ordered') ∧
        (Value.array ordered).equals (.array ordered') = true := by
  intro two items members
  have set : Collects (.set members) members := by
    refine .set (List.pairwise_cons.mpr ⟨?_, List.pairwise_pair.mpr rfl⟩)
    exact List.forall_mem_cons.mpr ⟨rfl, List.forall_mem_singleton.mpr rfl⟩
  have perm : items.Perm items.reverse := (List.reverse_perm items).symm
  obtain ⟨orders, rearranged⟩ := sort_orders
  refine ⟨.array items, set, perm, ?_, ?_, rearranged items items.reverse perm⟩
  · obtain ⟨ordered, _, greatest, sorts, _, arranged, stable, _, _, max, _, _, _, undefined⟩ :=
      orders (.array items) items (.array items)
    have nothing : greatest = .undefined := max.unique (gives_max (.array items) fun _ => rfl)
    subst nothing
    refine ⟨ordered, sorts, arranged, ?_, (undefined.mp rfl).resolve_left nofun, max⟩
    have spelled : (Value.ofInt 2).equals two = true := by decide +kernel
    have undefined' : Value.undefined.equals two = false := rfl
    have text : (Value.string "a").equals two = false := rfl
    have null : Value.null.equals two = false := rfl
    simp [stable, items, spelled, undefined', text, null]
  · obtain ⟨ordered, _, _, sorts, _, _, _, again, _⟩ := orders (.set members) members set
    exact ⟨ordered, sorts, again⟩

end Rego.Builtin.Ordering
