import Rego.Random
import Rego.Trace
import Rego.Value.Basic

/-!
# What a call may use besides its arguments

A query is the state that all its calls share: results kept for the rest of the query, a random
generator, and the notes collected so far.  A context tells a call where it stands, whether notes
are wanted, and the time at which the query counts as running.
-/

namespace Rego

set_option autoImplicit false

/-! ## Kept results -/

/-- A kept result with the builtin and the arguments it belongs to. -/
structure CacheEntry where
  name : String
  arguments : List Value
  value : Value

/-- Results kept for a query, at most one for each builtin and each list of equal arguments. -/
abbrev Cache := List CacheEntry

namespace Cache

/-- Whether an entry is the one of a builtin and arguments. -/
def matchesKey (name : String) (arguments : List Value) (entry : CacheEntry) : Bool :=
  entry.name == name && Value.compareItems entry.arguments arguments == .eq

/-- The result kept for a builtin and arguments. -/
def get? (cache : Cache) (name : String) (arguments : List Value) : Option Value :=
  (cache.find? (matchesKey name arguments)).map CacheEntry.value

/-- Keeps a result, in place of one kept for equal arguments. -/
def put (cache : Cache) (name : String) (arguments : List Value) (value : Value) : Cache :=
  if cache.any (matchesKey name arguments) then
    cache.map fun entry =>
      if matchesKey name arguments entry then { entry with value := value } else entry
  else cache ++ [⟨name, arguments, value⟩]

end Cache

/-! ## Queries and contexts -/

/-- The state that the calls of a query share. -/
structure Query where
  cache : Cache
  generator : Generator
  events : List TraceEvent

/-- Where and when a call happens. -/
structure Context where
  location : Option Location
  traced : Bool
  /-- Nanoseconds since the Unix epoch, negative before it. -/
  timestamp : Int

namespace Context

/-- The context of a call made inside a call, at a place of its own. -/
def child (context : Context) (location : Location) : Context :=
  { context with location := some location }

/-- Leaves a note about the place of the call, if notes are wanted. -/
def note (context : Context) (message : String) (query : Query) : Query :=
  if context.traced then
    { query with events := query.events ++ [⟨message, context.location⟩] }
  else query

end Context

end Rego
