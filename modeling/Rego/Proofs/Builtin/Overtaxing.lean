import Rego.Proofs.Builtin.Calls

/-!
# Arguments that overtax builtins

Four builtins do not survive all arguments. Conversions and quantities read numbers whose shift may
lie beyond the machine words, and a format may ask for more than a text can hold or for more digits
than numbers are written with (`Overtaxes`). Such a call ends the program, in whatever mode and
wherever it is made (`Overtaxes.invoke`); what a lenient call forgives is only a failure.
-/

namespace Rego

set_option autoImplicit false

/-- An error that what follows never makes is that of the first computation. -/
theorem Except.bind_eq_error_iff {ε α β : Type} {first : Except ε α} {next : α → Except ε β}
    {error : ε} (other : ∀ value, next value ≠ .error error) :
    (first >>= next) = .error error ↔ first = .error error := by
  cases first with
  | ok value => exact iff_of_false (other value) nofun
  | error known => exact ⟨fun same => Except.error.inj same ▸ rfl, fun same => by rw [same]; rfl⟩

namespace Quantity

variable {characters : List Char}

theorem mapError_arithmetic_ne (result : Except ArithmeticError Number) :
    result.mapError QuantityError.arithmetic ≠ .error .shiftOverflow := by
  cases result <;> exact nofun

/-- Nothing but reading its number keeps the amount of a quantity from being known. -/
theorem amount_eq_shiftOverflow_iff :
    amount characters = .error .shiftOverflow ↔ read characters = .error .shiftOverflow := by
  refine Except.bind_eq_error_iff fun ⟨number, unit⟩ => ?_
  dsimp only
  split
  · exact mapError_arithmetic_ne _
  · exact nofun

theorem bytes_eq_shiftOverflow_iff :
    bytes characters = .error .shiftOverflow ↔ read characters = .error .shiftOverflow := by
  refine Except.bind_eq_error_iff fun ⟨number, unit⟩ => ?_
  dsimp only
  split
  · next factor _ =>
      have survives := mapError_arithmetic_ne (scale number factor)
      revert survives
      cases (scale number factor).mapError QuantityError.arithmetic with
      | ok product => exact fun _ => nofun
      | error error => exact fun survives beyond => survives (Except.error.inj beyond ▸ rfl)
  · exact nofun

end Quantity

namespace Builtin

theorem Conversions.amount_of_shiftOverflow {read : List Char → Except QuantityError Number}
    {text : String} (beyond : read text.toList = .error .shiftOverflow) (name : String) :
    amount read name (.string text) = aborted name .shiftOverflow := by
  simp only [amount, Argument.string, beyond, bind, Except.bind]

namespace Strings

variable {format : String} {arguments : List Value}

/-- Any string and any array fit the declaration of the builtin that formats. -/
theorem check_sprintf (format : String) (arguments : List Value) :
    Registry.check "sprintf" Declared.sprintf.declaration [.string format, .array arguments] =
      .ok () := by
  refine Registry.check_of_allows (.cons (.inr rfl) (.cons (.inr ?_) .nil))
  rw [Ty.admits]
  exact Ty.admits_arrayOfAny arguments

theorem invoke_sprintf (format : String) (arguments : List Value) (context : Context)
    (strict : Bool) (query : Query) :
    Registry.standard.invoke context "sprintf" [.string format, .array arguments] strict query =
      (Registry.settle context strict (sprintf "sprintf" (.string format) (.array arguments)),
        query) := by
  have found : Registry.standard.find? "sprintf" = some (binary Declared.sprintf sprintf) := rfl
  exact Registry.invoke_plain found (check_sprintf format arguments) (by decide)

theorem sprintf_of_excess {excess : Format.Excess}
    (beyond : Format.excess? format.toList arguments = some excess) (name : String) :
    sprintf name (.string format) (.array arguments) = aborted name (excessCause excess) := by
  simp only [sprintf, characters, Argument.string, Argument.array, beyond, bind, Except.bind, pure,
    Except.pure]

theorem sprintf_of_no_excess (within : Format.excess? format.toList arguments = none)
    (name : String) :
    sprintf name (.string format) (.array arguments) =
      .ok (text (Format.render format.toList arguments)) := by
  simp only [sprintf, characters, Argument.string, Argument.array, within, bind, Except.bind, pure,
    Except.pure]

end Strings

end Builtin

namespace Registry

open Builtin

/-- The arguments that a builtin of this library does not survive, with the cause. -/
inductive Overtaxes : String → List Value → Cause → Prop where
  | conversion {text : String} (beyond : Value.decodeText text = .error .shiftOverflow) :
      Overtaxes "to_number" [.string text] .shiftOverflow
  | amount {text : String} (beyond : Quantity.read text.toList = .error .shiftOverflow) :
      Overtaxes "units.parse" [.string text] .shiftOverflow
  | bytes {text : String} (beyond : Quantity.read text.toList = .error .shiftOverflow) :
      Overtaxes "units.parse_bytes" [.string text] .shiftOverflow
  | format {format : String} {arguments : List Value} {excess : Format.Excess}
      (beyond : Format.excess? format.toList arguments = some excess) :
      Overtaxes "sprintf" [.string format, .array arguments] (Strings.excessCause excess)

/-- The builtins that may be overtaxed. -/
def overtaxed : List String := ["sprintf", "to_number", "units.parse", "units.parse_bytes"]

namespace Overtaxes

variable {name : String} {arguments : List Value} {cause : Cause}

theorem mem_overtaxed (beyond : Overtaxes name arguments cause) : name ∈ overtaxed := by
  cases beyond <;> decide

/-- What a builtin on one value does not survive ends a call in both modes. -/
theorem invoke_of_aborted {metadata : Metadata} {compute : String → Value → Outcome}
    {argument : Value} (found : standard.find? name = some (unary metadata compute))
    (checked : check name metadata.declaration [argument] = .ok ())
    (fresh : isKept name metadata = false)
    (aborts : compute metadata.name argument = aborted name cause) (context : Context)
    (strict : Bool) (query : Query) :
    standard.invoke context name [argument] strict query =
      (.error (.failed ⟨.aborting, name, cause, context.location⟩), query) := by
  rw [invoke_plain found checked fresh]
  dsimp only
  rw [aborts]
  rfl

/-- **A call with arguments that overtax a builtin ends the program.** -/
theorem invoke (beyond : Overtaxes name arguments cause) (context : Context) (strict : Bool)
    (query : Query) :
    standard.invoke context name arguments strict query =
      (.error (.failed ⟨.aborting, name, cause, context.location⟩), query) := by
  cases beyond with
  | @conversion text beyond =>
      have found : standard.find? "to_number" =
          some (unary Declared.toNumber Conversions.toNumber) := rfl
      refine invoke_of_aborted found (check_ok rfl rfl) (by decide) ?_ context strict query
      rw [Conversions.toNumber, Conversions.numberOfText, beyond]
      rfl
  | @amount text beyond =>
      have found : standard.find? "units.parse" =
          some (unary Declared.unitsParse (Conversions.amount Quantity.amount)) := rfl
      refine invoke_of_aborted found (check_ok rfl rfl) (by decide) ?_ context strict query
      exact Conversions.amount_of_shiftOverflow (Quantity.amount_eq_shiftOverflow_iff.mpr beyond) _
  | @bytes text beyond =>
      have found : standard.find? "units.parse_bytes" =
          some (unary Declared.unitsParseBytes (Conversions.amount Quantity.bytes)) := rfl
      refine invoke_of_aborted found (check_ok rfl rfl) (by decide) ?_ context strict query
      exact Conversions.amount_of_shiftOverflow (Quantity.bytes_eq_shiftOverflow_iff.mpr beyond) _
  | @format format arguments excess beyond =>
      rw [Strings.invoke_sprintf, Strings.sprintf_of_excess beyond]
      rfl

end Overtaxes

end Registry

end Rego
