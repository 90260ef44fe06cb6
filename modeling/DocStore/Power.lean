/-!
# Powers of two and ten

The two powers of which bounds, roundings and scalings are made.
-/

namespace DocStore

/-- Two to a power; the numbers of `k` bits are those below `twoTo k`. -/
def twoTo (k : Nat) : Nat := Nat.pow 2 k

/-- Ten to a power; the numbers of `k` decimal digits are those below `tenTo k`. -/
def tenTo (k : Nat) : Nat := Nat.pow 10 k

theorem tenTo_pos (k : Nat) : 0 < tenTo k := Nat.pow_pos (by decide)

theorem tenTo_add (j k : Nat) : tenTo (j + k) = tenTo j * tenTo k := Nat.pow_add 10 j k

end DocStore
