/-!
# Machine words

Some integers have to fit into a signed machine word of so many bits.
-/

namespace IdentityClaims.MachineWord

/-- The size from which an integer does not fit into a signed word of `bits` bits. -/
def limit (bits : Nat) : Int := (Nat.pow 2 (bits - 1) : Nat)

def fits (bits : Nat) (n : Int) : Bool := -limit bits ≤ n && n < limit bits

end IdentityClaims.MachineWord
