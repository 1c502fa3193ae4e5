/-!
Powers of two and of ten, the sizes of words and of decimal units.
-/
namespace ChannelMux

def twoTo (exponent : Nat) : Nat := Nat.pow 2 exponent
def tenTo (exponent : Nat) : Nat := Nat.pow 10 exponent

theorem twoTo_succ (n : Nat) : twoTo (n + 1) = twoTo n * 2 := rfl

theorem twoTo_pos (n : Nat) : 0 < twoTo n := Nat.pow_pos (by decide)

end ChannelMux
