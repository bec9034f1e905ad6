/-
The powers of whole numbers, and their bits. A negative number has the
bits that its complement lacks, and so an endless row of them at its upper
end.

`b ^ n` is the power of the core language in every module, whatever else
the module imports. A library of algebra brings another way to find the
same power, as one of a monoid; a number that is written with a power is
then not the same term everywhere.
-/

namespace CommandConsole.Number

attribute [instance (1100), default_instance (20000)] instPowNat

/-- The bits that two numbers have in common. -/
def commonBits : Int → Int → Int
  | .ofNat m, .ofNat n => .ofNat (m &&& n)
  | .ofNat m, .negSucc n => .ofNat (m ^^^ (m &&& n))
  | .negSucc m, .ofNat n => .ofNat (n ^^^ (n &&& m))
  | .negSucc m, .negSucc n => .negSucc (m ||| n)

/-- The bits that one of two numbers has, or both of them. -/
def joinedBits : Int → Int → Int
  | .ofNat m, .ofNat n => .ofNat (m ||| n)
  | .ofNat m, .negSucc n => .negSucc (n ^^^ (n &&& m))
  | .negSucc m, .ofNat n => .negSucc (m ^^^ (m &&& n))
  | .negSucc m, .negSucc n => .negSucc (m &&& n)

/-- The bits that one of two numbers has, but not both of them. -/
def differingBits : Int → Int → Int
  | .ofNat m, .ofNat n => .ofNat (m ^^^ n)
  | .ofNat m, .negSucc n => .negSucc (m ^^^ n)
  | .negSucc m, .ofNat n => .negSucc (m ^^^ n)
  | .negSucc m, .negSucc n => .ofNat (m ^^^ n)

/-- The number of bits that the distance of a number from zero needs. -/
def bitLength (n : Int) : Nat := if n = 0 then 0 else n.natAbs.log2 + 1

/-- The number of bits that are set in the distance of a number from
zero. -/
def bitCount (n : Int) : Nat :=
  ((List.range (bitLength n)).filter n.natAbs.testBit).length

/-- A number is a power of two. -/
def isPowerOfTwo (n : Int) : Bool := 0 < n && n == (2 ^ n.toNat.log2 : Nat)

end CommandConsole.Number
