/-!
# Powers

Where this namespace is open, powers of naturals and of integers with natural exponents are the ones
that the core library computes, also where other notions of power are in scope.
-/

namespace Rego.Power

attribute [scoped instance (high + 1)] instPowNat

end Rego.Power
