/-
The built-in operations on numbers.

What powers of numbers and sums of lists of them mean is settled here: the operations built in, also
where a library that is imported besides brings others.
-/

namespace PageScript.Number

@[default_instance high + 1]
instance (priority := high) builtinPower {α : Type} [NatPow α] : Pow α Nat :=
  instPowNat

instance (priority := high) builtinZero : Zero Nat :=
  ⟨0⟩

end PageScript.Number
