/-!
# Powers

Powers of natural numbers and of integers are those of the language, also where another instance is in scope.
-/

namespace BidAdapter

@[default_instance 20000]
instance (priority := 20000) natPower {α : Type} [NatPow α] : Pow α Nat := instPowNat

end BidAdapter
