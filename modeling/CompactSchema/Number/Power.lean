/-!
Contract: powers of two and ten as natural numbers.

Owns: their names. They are what the widths of binary formats and the scales of
decimals stand for.

Does not own: those formats.
-/

set_option autoImplicit false

namespace CompactSchema

abbrev twoTo (power : Nat) : Nat := Nat.pow 2 power

abbrev tenTo (power : Nat) : Nat := Nat.pow 10 power

end CompactSchema
