import Rego.Builtin.Metadata

/-!
# Declarations with effects

Signatures and descriptions of the builtins that use the context or the state of a query.
-/

namespace Rego.Declared

set_option autoImplicit false

/-- The declaration of `rand.intn`. -/
def randIntn : Metadata where
  name := "rand.intn"
  description := some ("Returns a random integer between `0` and `n` (`n` exclusive). If `n` is " ++
      "`0`, then `y` is always `0`. For any given argument pair (`str`, `n`), the output will " ++
      "be consistent throughout a query evaluation.")
  categories := some ["numbers"]
  declaration :=
    ⟨[.named "str" (some "seed string for the random number") .string,
      .named "n" (some "upper bound of the random number (exclusive)") .number],
      some (.named "y" (some "random integer in the range `[0, abs(n))`") .number),
      none⟩
  nondeterministic := some true
  ignoresContext := false

/-- The declaration of `time.now_ns`. -/
def timeNowNs : Metadata where
  name := "time.now_ns"
  description := some "Returns the current time since epoch in nanoseconds."
  declaration :=
    ⟨[],
      some (.named "now" (some "nanoseconds since epoch") .number),
      none⟩
  nondeterministic := some true
  ignoresContext := false

/-- The declaration of `trace`. -/
def trace : Metadata where
  name := "trace"
  description := some ("Emits `note` as a `Note` event in the query explanation. Query " ++
      "explanations show the exact expressions evaluated by OPA during policy execution. For " ++
      "example, `trace(\"Hello There!\")` includes `Note \"Hello There!\"` in the query " ++
      "explanation. To include variables in the message, use `sprintf`. For example, `person := " ++
      "\"Bob\"; trace(sprintf(\"Hello There! %v\", [person]))` will emit `Note \"Hello There! " ++
      "Bob\"` inside of the explanation.")
  categories := some ["tracing"]
  declaration :=
    ⟨[.named "note" (some "the note to include") .string],
      some (.named "result" (some "always `true`") .boolean),
      none⟩
  ignoresContext := false

/-- The declaration of `uuid.rfc4122`. -/
def uuidRfc4122 : Metadata where
  name := "uuid.rfc4122"
  description := some "Returns a new UUIDv4."
  declaration :=
    ⟨[.named "k" (some "seed string") .string],
      some (.named "output" (some ("a version 4 UUID; for any given `k`, the output will be " ++
          "consistent throughout a query evaluation"))
        .string),
      none⟩
  nondeterministic := some true
  ignoresContext := false

end Rego.Declared
