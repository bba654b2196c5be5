import Rego.Builtin.Implementation
import Rego.Proofs.Number.Exact

/-!
# Arguments that are words

Several builtins read arguments as machine words. An argument is read as the word that it stands
for, in whatever representation (`integer_of_isWord`), and reading any other fails
(`integer_of_not_isWord`). So a computation that reads a word first gives what it computes from the
word, or fails (`integer_bind_fails`).
-/

namespace Rego.Argument

set_option autoImplicit false

open Number (FitsWord)

/-- An argument stands for a word: a number of integral value, in whatever representation, that fits
one. -/
def IsWord (argument : Value) (whole : Int) : Prop :=
  ∃ number : Number, argument = .number number ∧ number.Denotes whole ∧ FitsWord whole

variable {argument : Value} {whole : Int}

theorem IsWord.fits (word : IsWord argument whole) : FitsWord whole := by
  obtain ⟨_, _, _, fits⟩ := word
  exact fits

theorem isWord_number_iff {number : Number} :
    IsWord (.number number) whole ↔ number.Denotes whole ∧ FitsWord whole := by
  constructor
  · rintro ⟨_, same, word⟩
    cases same
    exact word
  · exact fun word => ⟨number, rfl, word⟩

theorem isWord_ofInt_iff {other : Int} :
    IsWord (.ofInt whole) other ↔ other = whole ∧ FitsWord whole := by
  rw [Value.ofInt, isWord_number_iff]
  constructor
  · rintro ⟨denotes, fits⟩
    obtain rfl := (Number.denotes_ofInt whole).unique denotes
    exact ⟨rfl, fits⟩
  · rintro ⟨rfl, fits⟩
    exact ⟨Number.denotes_ofInt other, fits⟩

theorem integer_of_isWord (word : IsWord argument whole) (name : String) :
    integer name argument = .ok whole := by
  obtain ⟨_, rfl, read⟩ := word
  simp only [integer, number, Number.toSigned?_eq_some_iff.mpr read, bind, Except.bind]

theorem integer_of_not_isWord (other : ∀ whole, ¬IsWord argument whole) (name : String) :
    ∃ cause, integer name argument = failed name cause := by
  cases argument with
  | number payload =>
      refine ⟨.wrongKind .integer (.number payload), ?_⟩
      cases read : payload.toSigned? with
      | none => simp only [integer, number, read, bind, Except.bind]
      | some whole =>
          exact absurd (isWord_number_iff.mpr (Number.toSigned?_eq_some_iff.mp read)) (other whole)
  | _ => exact ⟨.wrongKind .numeric _, rfl⟩

/-- What reads a word first fails if it fails on every word that the argument may stand for. -/
theorem integer_bind_fails {α : Type} {name : String} {next : Int → Except BuiltinError α}
    (following : ∀ whole, IsWord argument whole → ∃ cause, next whole = failed name cause) :
    ∃ cause, (integer name argument >>= next) = failed name cause := by
  by_cases word : ∃ whole, IsWord argument whole
  · obtain ⟨whole, word⟩ := word
    rw [integer_of_isWord word]
    exact following whole word
  · obtain ⟨cause, fails⟩ := integer_of_not_isWord (not_exists.mp word) name
    rw [fails]
    exact ⟨cause, rfl⟩

end Rego.Argument
