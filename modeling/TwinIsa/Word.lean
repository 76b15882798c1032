/-!
Machine words. Both machines keep their words in 32 bits, of which the binary machine uses sixteen
and the ternary machine eighteen. Arithmetic on the fields of a word is done on natural numbers;
a word is what is stored in an image and what a listing reads.
-/

namespace TwinIsa

-- A power of a number is the same term in modules with and without an algebra library.
attribute [instance (high)] instPowNat

abbrev Word := UInt32

namespace Word

def count : Nat := 2 ^ (32 : Nat)

def mask (width : Nat) : Nat := 2 ^ width - 1

example : mask 5 = 0b11111 := rfl

end Word

end TwinIsa
