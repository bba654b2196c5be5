import Rego.Builtin.Registry

/-!
# What computations of builtins may come to

A computation yields values with a property when it gives such a value or fails in the ordinary way
(`Yields`); it then never halts an evaluation. Sequences of computations yield what their last step
does (`Yields.bind`), and the readers of arguments yield values of the kind they read. A builtin is
sound when it has a fixed number of arguments and with this number of them, whatever they are,
yields what its declaration promises, a value of the declared type or an undefined one
(`Builtin.Sound`). Some arguments may overtax a builtin, which then ends the program; apart from
these it may still be sound (`Builtin.SoundUnless`).
-/

namespace Rego

set_option autoImplicit false

/-- A computation gives a value with a property or fails in the ordinary way. -/
def Yields {α : Type} (good : α → Prop) : Except BuiltinError α → Prop
  | .ok value => good value
  | .error error => error.severity = .ordinary

namespace Yields

variable {α β : Type} {good : α → Prop} {computation : Except BuiltinError α}

theorem failed (name : String) (cause : Cause) : Yields good (failed name cause) := rfl

/-- What follows the good values of a computation decides what both yield. -/
theorem bind {better : β → Prop} {next : α → Except BuiltinError β}
    (first : Yields good computation)
    (following : ∀ value, good value → Yields better (next value)) :
    Yields better (computation >>= next) := by
  cases computation with
  | ok value => exact following value first
  | error error => exact first

theorem of_ok {value : α} (yields : Yields good computation) (given : computation = .ok value) :
    good value := by
  rw [given] at yields
  exact yields

theorem mono {better : α → Prop} (yields : Yields good computation)
    (improves : ∀ value, good value → better value) : Yields better computation := by
  cases computation with
  | ok value => exact improves value yields
  | error error => exact yields

theorem mapM {γ : Type} {step : γ → Except BuiltinError α}
    (each : ∀ item, Yields good (step item)) : ∀ items : List γ,
    Yields (fun values => ∀ value ∈ values, good value) (items.mapM step)
  | [] => by
      rw [List.mapM_nil]
      exact fun _ member => absurd member List.not_mem_nil
  | item :: rest => by
      rw [List.mapM_cons]
      refine (each item).bind fun value here => (mapM each rest).bind fun values there => ?_
      exact List.forall_mem_cons.mpr ⟨here, there⟩

end Yields

/-! ## Arguments -/

namespace Argument

variable (name : String)

theorem yields_number (value : Value) :
    Yields (fun payload => value = .number payload) (number name value) := by
  unfold number
  split
  · exact rfl
  · exact .failed _ _

theorem yields_integer (value : Value) :
    Yields (fun whole => ∃ payload, value = .number payload ∧ payload.toSigned? = some whole)
      (integer name value) := by
  refine (yields_number name value).bind fun payload read => ?_
  split
  · rename_i whole fits
    exact ⟨payload, read, fits⟩
  · exact .failed _ _

theorem yields_string (value : Value) :
    Yields (fun payload => value = .string payload) (string name value) := by
  unfold string
  split
  · exact rfl
  · exact .failed _ _

theorem yields_array (value : Value) :
    Yields (fun items => value = .array items) (array name value) := by
  unfold array
  split
  · exact rfl
  · exact .failed _ _

theorem yields_set (value : Value) :
    Yields (fun members => value = .set members) (set name value) := by
  unfold set
  split
  · exact rfl
  · exact .failed _ _

theorem yields_object (value : Value) :
    Yields (fun fields => value = .object fields) (object name value) := by
  unfold object
  split
  · exact rfl
  · exact .failed _ _

theorem yields_stringsFrom : ∀ (index : Nat) (items : List Value),
    Yields (fun texts => items = texts.map Value.string) (stringsFrom name index items)
  | _, [] => rfl
  | index, item :: rest => by
      cases item with
      | string text =>
          refine (yields_stringsFrom (index + 1) rest).bind fun texts read => ?_
          exact congrArg (Value.string text :: ·) read
      | _ => exact .failed _ _

theorem yields_strings (value : Value) :
    Yields (fun texts => value = .array (texts.map .string) ∨ value = .set (texts.map .string))
      (strings name value) := by
  cases value with
  | array items => exact (yields_stringsFrom name 0 items).mono fun _ read => .inl (read ▸ rfl)
  | set members => exact (yields_stringsFrom name 0 members).mono fun _ read => .inr (read ▸ rfl)
  | _ => exact .failed _ _

end Argument

/-! ## Values of a type -/

namespace Ty

/-- A value is undefined or of a type. -/
def Allows (type : Ty) (value : Value) : Prop := value = .undefined ∨ type.admits value = true

theorem admits_unnamed : ∀ (type : Ty) (value : Value),
    type.unnamed.admits value = type.admits value
  | .named _ _ inner, value => by
      rw [unnamed, admits]
      exact admits_unnamed inner value
  | .null, _ | .boolean, _ | .string, _ | .number, _ | .any _, _ | .array _ _, _ | .set _, _
  | .object _ _, _ | .function _ _ _, _ => rfl

theorem allows_of_admits {type : Ty} {value : Value} (admitted : type.admits value = true) :
    type.Allows value := .inr admitted

theorem admits_any (value : Value) : (Ty.any []).admits value = true := by
  simp only [admits, List.isEmpty_nil, Bool.true_or]

/-- A union takes what one of its alternatives takes. -/
theorem admits_any_of_mem {type : Ty} {value : Value} (admitted : type.admits value = true) :
    ∀ {alternatives : List Ty}, type ∈ alternatives → (Ty.any alternatives).admits value = true
  | first :: rest, member => by
      rw [admits, admitsAny, Bool.or_eq_true_iff, Bool.or_eq_true_iff]
      rcases List.mem_cons.mp member with rfl | later
      · exact .inr (.inl admitted)
      · have some := admits_any_of_mem admitted later
        rw [admits, Bool.or_eq_true_iff] at some
        refine .inr (.inr (some.resolve_left fun empty => ?_))
        exact List.not_mem_nil (List.isEmpty_iff.mp empty ▸ later)

theorem admits_arrayOf (type : Ty) (items : List Value) :
    (Ty.array [] (some type)).admits (.array items) = items.all type.admits := by
  simp only [admits, admitsLeading, admitsFurther, List.length_nil, List.drop_zero, Bool.true_and]

theorem admits_arrayOfAny (items : List Value) :
    (Ty.array [] (some (.any []))).admits (.array items) = true := by
  rw [admits_arrayOf]
  exact List.all_eq_true.mpr fun item _ => admits_any item

theorem admits_setOfAny (members : List Value) :
    (Ty.set (some (.any []))).admits (.set members) = true := by
  rw [admits]
  exact List.all_eq_true.mpr fun member _ => admits_any member

theorem admits_objectOfAny (fields : List (Value × Value)) :
    (Ty.object [] (some (.any [], .any []))).admits (.object fields) = true := by
  rw [admits, admitsProperties, admitsFurtherFields, Bool.true_and]
  refine List.all_eq_true.mpr fun field _ => ?_
  rw [admits_any, admits_any, Bool.and_self]

end Ty

/-- A computation of a value yields values of a type or undefined ones. -/
abbrev Returns (type : Ty) (outcome : Outcome) : Prop := Yields type.Allows outcome

/-! ## Builtins -/

namespace Metadata

/-- A value is one that a declaration promises: of the declared type, or undefined. -/
def Promises (metadata : Metadata) (value : Value) : Prop :=
  ∃ type, metadata.declaration.result = some type ∧ type.Allows value

/-- A declaration takes a fixed number of arguments and has a result of a type, under whatever
name. -/
structure Declares (metadata : Metadata) (count : Nat) (type : Ty) : Prop where
  fixed : metadata.isVariadic = false
  count : metadata.arity = count
  result : metadata.declaration.result.map Ty.unnamed = some type

theorem Declares.promises {metadata : Metadata} {count : Nat} {type : Ty} {value : Value}
    (declares : metadata.Declares count type) (allowed : type.Allows value) :
    metadata.Promises value := by
  obtain ⟨declared, present, rfl⟩ := Option.map_eq_some_iff.mp declares.result
  refine ⟨declared, present, allowed.imp_right fun admitted => ?_⟩
  rw [← Ty.admits_unnamed]
  exact admitted

end Metadata

namespace Builtin

/-- With the declared number of arguments a builtin yields what its declaration promises, unless
they overtax it and it ends the program, and it leaves the kept results to the registry. -/
structure SoundUnless (overtaxes : List Value → Cause → Prop) (builtin : Builtin) : Prop where
  fixed : builtin.metadata.isVariadic = false
  keeps : ∀ context arguments query, arguments.length = builtin.metadata.arity →
    (builtin.implementation.run context arguments query).2.cache = query.cache
  returns : ∀ context arguments query, arguments.length = builtin.metadata.arity →
    Yields builtin.metadata.Promises (builtin.implementation.run context arguments query).1 ∨
      ∃ cause, overtaxes arguments cause ∧
        (builtin.implementation.run context arguments query).1 =
          aborted builtin.metadata.name cause

/-- A builtin is sound when no arguments overtax it. -/
abbrev Sound (builtin : Builtin) : Prop := builtin.SoundUnless fun _ _ => False

theorem SoundUnless.mono {overtaxes others : List Value → Cause → Prop} {builtin : Builtin}
    (sound : builtin.SoundUnless overtaxes)
    (more : ∀ arguments cause, overtaxes arguments cause → others arguments cause) :
    builtin.SoundUnless others where
  fixed := sound.fixed
  keeps := sound.keeps
  returns context arguments query counted :=
    (sound.returns context arguments query counted).imp_right fun ⟨cause, beyond, same⟩ =>
      ⟨cause, more arguments cause beyond, same⟩

variable {metadata : Metadata} {type : Ty} {overtaxes : List Value → Cause → Prop}

section Plain

variable {run : List Value → Outcome} {count : Nat} (declares : metadata.Declares count type)

include declares

theorem soundUnless_plain
    (returns : ∀ arguments, arguments.length = count → Returns type (run arguments) ∨
      ∃ cause, overtaxes arguments cause ∧ run arguments = aborted metadata.name cause) :
    SoundUnless overtaxes ⟨metadata, .plain run⟩ where
  fixed := declares.fixed
  keeps _ _ _ _ := rfl
  returns _ arguments _ counted :=
    (returns arguments (counted.trans declares.count)).imp_left fun yields =>
      yields.mono fun _ => declares.promises

theorem sound_plain (returns : ∀ arguments, arguments.length = count →
    Returns type (run arguments)) : SoundUnless overtaxes ⟨metadata, .plain run⟩ :=
  soundUnless_plain declares fun arguments counted => .inl (returns arguments counted)

end Plain

theorem soundUnless_unary {run : String → Value → Outcome} (declares : metadata.Declares 1 type)
    (returns : ∀ argument, Returns type (run metadata.name argument) ∨
      ∃ cause, overtaxes [argument] cause ∧
        run metadata.name argument = aborted metadata.name cause) :
    (unary metadata run).SoundUnless overtaxes := by
  refine soundUnless_plain declares fun arguments counted => ?_
  match arguments, counted with
  | [argument], _ => exact returns argument

theorem sound_unary {run : String → Value → Outcome} (declares : metadata.Declares 1 type)
    (returns : ∀ argument, Returns type (run metadata.name argument)) :
    (unary metadata run).SoundUnless overtaxes :=
  soundUnless_unary declares fun argument => .inl (returns argument)

theorem soundUnless_binary {run : String → Value → Value → Outcome}
    (declares : metadata.Declares 2 type)
    (returns : ∀ first second, Returns type (run metadata.name first second) ∨
      ∃ cause, overtaxes [first, second] cause ∧
        run metadata.name first second = aborted metadata.name cause) :
    (binary metadata run).SoundUnless overtaxes := by
  refine soundUnless_plain declares fun arguments counted => ?_
  match arguments, counted with
  | [first, second], _ => exact returns first second

theorem sound_binary {run : String → Value → Value → Outcome} (declares : metadata.Declares 2 type)
    (returns : ∀ first second, Returns type (run metadata.name first second)) :
    (binary metadata run).SoundUnless overtaxes :=
  soundUnless_binary declares fun first second => .inl (returns first second)

theorem sound_ternary {run : String → Value → Value → Value → Outcome}
    (declares : metadata.Declares 3 type)
    (returns : ∀ first second third, Returns type (run metadata.name first second third)) :
    (ternary metadata run).SoundUnless overtaxes := by
  refine sound_plain declares fun arguments counted => ?_
  match arguments, counted with
  | [first, second, third], _ => exact returns first second third

end Builtin

end Rego
