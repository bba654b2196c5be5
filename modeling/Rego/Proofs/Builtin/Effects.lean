import Rego.Proofs.Builtin.Outcomes
import Rego.Proofs.Number.Whole

/-!
# Builtins that look beyond their arguments

A builtin that draws either gives one of the values that its arguments allow and moves at most the
generator of the query, or fails in the ordinary way and leaves the query as it was (`Drew`). The
values are the random numbers below the magnitude of a bound, random identifiers, and the time of
the query (`Draws`). Leaving a note changes nothing but the events. So these builtins are sound as
well (`sound_of_mem_builtins`).
-/

namespace Rego.Builtin.Effects

set_option autoImplicit false

/-- The values that a builtin whose results vary may give for arguments, in a query that runs at a
time. A random number is below the magnitude of its bound, and zero if there is none below it. -/
inductive Draws (timestamp : Int) : String → List Value → Value → Prop where
  | number {label : String} {limit : Number} {whole : Int} {drawn : Nat}
      (integral : limit.toInt? = some whole)
      (within : drawn < whole.natAbs ∨ whole = 0 ∧ drawn = 0) :
      Draws timestamp "rand.intn" [.string label, .number limit] (.ofNat drawn)
  | identifier (label text : String) :
      Draws timestamp "uuid.rfc4122" [.string label] (.string text)
  | time : Draws timestamp "time.now_ns" [] (.ofInt timestamp)

/-- A drawing call gave an allowed value and moved at most the generator, or failed in the ordinary
way and changed nothing. -/
def Drew (timestamp : Int) (name : String) (arguments : List Value) (query : Query)
    (result : Outcome × Query) : Prop :=
  (∃ value generator, Draws timestamp name arguments value ∧
    result = (.ok value, { query with generator := generator })) ∨
  ∃ error, error.severity = .ordinary ∧ result = (.error error, query)

theorem Draws.ne_undefined {timestamp : Int} {name : String} {arguments : List Value}
    {value : Value} (draws : Draws timestamp name arguments value) : value ≠ .undefined := by
  intro undefined
  cases draws <;> cases undefined

/-! ## One call -/

theorem exists_drawBelow (bound : Nat) (query : Query) :
    ∃ drawn generator, (drawn < bound ∨ bound = 0 ∧ drawn = 0) ∧
      drawBelow bound query = (.ofNat drawn, { query with generator := generator }) := by
  unfold drawBelow
  by_cases empty : bound = 0
  · rw [if_pos empty]
    exact ⟨0, query.generator, .inr ⟨empty, rfl⟩, rfl⟩
  · rw [if_neg empty]
    exact ⟨_, _, .inl (Nat.mod_lt _ (Nat.pos_of_ne_zero empty)), rfl⟩

theorem drew_randomNumber (timestamp : Int) (name : String) (label limit : Value) (query : Query) :
    Drew timestamp "rand.intn" [label, limit] query (randomNumber name label limit query) := by
  cases label with
  | string text =>
      cases limit with
      | number number =>
          cases known : number.abs.toUnsigned? with
          | some size =>
              obtain ⟨whole, integral, magnitude, _⟩ := Number.toUnsigned?_abs_eq_some_iff.mp known
              obtain ⟨drawn, generator, within, drew⟩ := exists_drawBelow size query
              have read : bound name number = .ok size := by
                unfold bound
                rw [known]
              refine .inl ⟨.ofNat drawn, generator, .number integral ?_, ?_⟩
              · rcases within with less | ⟨none, zero⟩
                · exact .inl (magnitude ▸ less)
                · exact .inr ⟨Int.natAbs_eq_zero.mp (magnitude.trans none), zero⟩
              · simp only [randomNumber, Argument.string, Argument.number, bind, Except.bind, read,
                  drew]
          | none =>
              have read : bound name number = failed name (.boundNotInteger number) := by
                unfold bound
                rw [known]
              refine .inr ⟨.ordinary name (.boundNotInteger number), rfl, ?_⟩
              simp only [randomNumber, Argument.string, Argument.number, bind, Except.bind, read,
                failed]
      | _ => exact .inr ⟨_, rfl, rfl⟩
  | _ => exact .inr ⟨_, rfl, rfl⟩

theorem drew_randomIdentifier (timestamp : Int) (name : String) (label : Value) (query : Query) :
    Drew timestamp "uuid.rfc4122" [label] query (randomIdentifier name label query) := by
  cases label with
  | string text => exact .inl ⟨_, _, .identifier text _, rfl⟩
  | _ => exact .inr ⟨_, rfl, rfl⟩

theorem drew_now (name : String) (context : Context) (query : Query) :
    Drew context.timestamp "time.now_ns" [] query (now name context, query) := by
  unfold now
  split
  · exact .inr ⟨_, rfl, rfl⟩
  · exact .inl ⟨_, query.generator, .time, rfl⟩

theorem leaveNote_cases (name : String) (context : Context) (message : Value) (query : Query) :
    Returns .boolean (leaveNote name context message query).1 ∧
      ∃ events, (leaveNote name context message query).2 = { query with events := events } := by
  cases message with
  | string text =>
      refine ⟨.inr rfl, ?_⟩
      have noted : (leaveNote name context (.string text) query).2 = context.note text query := rfl
      rw [noted, Context.note]
      split
      · exact ⟨_, rfl⟩
      · exact ⟨query.events, rfl⟩
  | _ => exact ⟨.failed _ _, query.events, rfl⟩

/-! ## The builtins -/

/-- The names of the builtins that draw. -/
def drawing : List String := ["rand.intn", "uuid.rfc4122", "time.now_ns"]

/-- The type of what a builtin draws. -/
def drawnType (name : String) : Ty := if name = "uuid.rfc4122" then .string else .number

theorem Draws.allows {timestamp : Int} {name : String} {arguments : List Value} {value : Value}
    (draws : Draws timestamp name arguments value) : (drawnType name).Allows value := by
  cases draws with
  | number => exact .inr rfl
  | identifier => exact .inr rfl
  | time => exact .inr rfl

/-- With the declared number of arguments a builtin draws what its declaration says. -/
structure Drawing (builtin : Builtin) : Prop where
  listed : builtin.metadata.name ∈ drawing
  declares : builtin.metadata.Declares builtin.metadata.arity (drawnType builtin.metadata.name)
  drew : ∀ context arguments query, arguments.length = builtin.metadata.arity →
    Drew context.timestamp builtin.metadata.name arguments query
      (builtin.implementation.run context arguments query)

/-- With the declared number of arguments a builtin changes nothing but the events. -/
structure Noting (builtin : Builtin) : Prop where
  unlisted : builtin.metadata.name ∉ drawing
  declares : builtin.metadata.Declares builtin.metadata.arity .boolean
  noted : ∀ context arguments query, arguments.length = builtin.metadata.arity →
    Returns .boolean (builtin.implementation.run context arguments query).1 ∧
      ∃ events, (builtin.implementation.run context arguments query).2 =
        { query with events := events }

theorem Drawing.sound {builtin : Builtin} (draws : Drawing builtin) : builtin.Sound where
  fixed := draws.declares.fixed
  keeps context arguments query counted := by
    rcases draws.drew context arguments query counted with ⟨_, _, _, same⟩ | ⟨_, _, same⟩
    · rw [same]
    · rw [same]
  returns context arguments query counted := by
    rcases draws.drew context arguments query counted with ⟨_, _, drawn, same⟩ |
      ⟨_, ordinary, same⟩
    · rw [same]
      exact .inl (draws.declares.promises drawn.allows)
    · rw [same]
      exact .inl ordinary

theorem Noting.sound {builtin : Builtin} (notes : Noting builtin) : builtin.Sound where
  fixed := notes.declares.fixed
  keeps context arguments query counted := by
    obtain ⟨_, _, same⟩ := notes.noted context arguments query counted
    rw [same]
  returns context arguments query counted :=
    .inl ((notes.noted context arguments query counted).1.mono fun _ => notes.declares.promises)

/-- **Each of the builtins either draws or leaves notes.** -/
theorem drawing_or_noting : ∀ builtin ∈ builtins, Drawing builtin ∨ Noting builtin := by
  simp only [builtins, List.forall_mem_cons]
  refine ⟨.inl ⟨by decide, ⟨rfl, rfl, rfl⟩, ?number⟩, .inl ⟨by decide, ⟨rfl, rfl, rfl⟩, ?identifier⟩,
    .inl ⟨by decide, ⟨rfl, rfl, rfl⟩, ?time⟩, .inr ⟨by decide, ⟨rfl, rfl, rfl⟩, ?note⟩,
    fun _ member => absurd member List.not_mem_nil⟩
  case number =>
    intro context arguments query counted
    match arguments, counted with
    | [label, limit], _ => exact drew_randomNumber context.timestamp _ label limit query
  case identifier =>
    intro context arguments query counted
    match arguments, counted with
    | [label], _ => exact drew_randomIdentifier context.timestamp _ label query
  case time =>
    intro context arguments query counted
    match arguments, counted with
    | [], _ => exact drew_now _ context query
  case note =>
    intro context arguments query counted
    match arguments, counted with
    | [message], _ => exact leaveNote_cases _ context message query

/-- **The builtins that look beyond their arguments are sound.** -/
theorem sound_of_mem_builtins (builtin : Builtin) (member : builtin ∈ builtins) :
    builtin.Sound := by
  rcases drawing_or_noting builtin member with draws | notes
  · exact draws.sound
  · exact notes.sound

end Rego.Builtin.Effects
