/-
The number by which a key is told from others before it is compared with
them.

Numbers of all kinds that are equal have one such number: what is left of
them modulo a prime, where a denominator divides. The empty text has the
number of zero, and rows and sets mix the numbers of their items. No other two
objects are told to share one unless they are equal.
-/
import CommandConsole.Number.Arithmetic
import CommandConsole.Object.Basic

namespace CommandConsole.Object

open Number

/-- The prime modulo which numbers are told apart. -/
def hashPrime : Nat := 2 ^ 61 - 1

/-- A power modulo the prime, for an exponent with at most `bits` bits. -/
def powerModulo (base exponent : Nat) : Nat → Nat
  | 0 => 1
  | bits + 1 =>
      let rest := powerModulo (base * base % hashPrime) (exponent / 2) bits
      if exponent % 2 = 1 then base * rest % hashPrime else rest

/-- The number of infinity. -/
def hashOfInfinity : Int := 314159

/-- The number of a fraction. The one below zero is left free. -/
def hashOfRat (q : Rat) : Int :=
  let left := q.num.natAbs * powerModulo (q.den % hashPrime) (hashPrime - 2) 61 % hashPrime
  let hash : Int := if q.num < 0 then -(left : Int) else left
  if hash = -1 then -2 else hash

/-- A number of 64 bits as one that may be below zero. The one below zero is
left free, for which another one stands. -/
def signedHash (free instead : Int) (n : Nat) : Int :=
  let n : Nat := n % 2 ^ 64
  let hash : Int := if n < 2 ^ 63 then n else n - 2 ^ 64
  if hash = free then instead else hash

/-- A number that may be below zero as one of 64 bits. -/
def hashBits (hash : Int) : Nat := (hash % 2 ^ 64).toNat

/-- The number of a floating-point number, if it is one. -/
def hashOfFloat? : Binary64 → Option Int
  | .infinity negative => some (if negative then -hashOfInfinity else hashOfInfinity)
  | y => y.toRat?.map hashOfRat

/-- Bits moved to the left by some places, where those that leave come back on
the right. -/
def rotated (places n : Nat) : Nat := (n * 2 ^ places + n / 2 ^ (64 - places)) % 2 ^ 64

/-- The number of a row of objects with some numbers. -/
def hashOfRow (hashes : List Int) : Int :=
  let step (found : Nat) (hash : Int) : Nat :=
    rotated 31 ((found + hashBits hash * 14029467366897019727) % 2 ^ 64)
      * 11400714785074694791 % 2 ^ 64
  let found := hashes.foldl step 2870177450012600261
  let length := hashes.length
  signedHash (-1) 1546275796 (found + Nat.xor length (Nat.xor 2870177450012600261 3527539))

/-- The number of a set of objects with some numbers, in whatever order. -/
def hashOfSet (hashes : List Int) : Int :=
  let mixed (hash : Int) : Nat :=
    let n := hashBits hash
    Nat.xor (Nat.xor n 89869747) (n * 2 ^ 16 % 2 ^ 64) * 3644798167 % 2 ^ 64
  let found := hashes.foldl (fun found hash => Nat.xor found (mixed hash)) 0
  let found := Nat.xor found ((hashes.length + 1) * 1927868237 % 2 ^ 64)
  let found := Nat.xor found (Nat.xor (found / 2 ^ 11) (found / 2 ^ 25))
  signedHash (-1) 590923713 (found * 69069 + 907133923)

mutual

/-- The number by which an object is told from others, if it is a number, the
empty text, or a row of such objects. -/
def hash? (x : Object) : Option Int :=
  match x with
  | .tuple items => (hashes? items).map hashOfRow
  | .frozenSet items => (hashes? items).map hashOfSet
  | .complex re im => do
      let m ← hashOfFloat? re
      let n ← hashOfFloat? im
      return signedHash (-1) (-2) (hashBits m + 1000003 * hashBits n)
  | .range first last pace =>
      let size := progressionSize first last pace
      if size < 2 then Option.none
      else some (hashOfRow [hashOfRat size, hashOfRat first, hashOfRat pace])
  | x =>
      match x.bare with
      | .float y => hashOfFloat? y
      | .fraction q => some (hashOfRat q)
      | .text s => if s = "" then some 0 else Option.none
      | .bytes row => if row.isEmpty then some 0 else Option.none
      | x => x.integer?.map fun n => hashOfRat n

/-- The numbers of some objects, if all of them have one. -/
def hashes? : List Object → Option (List Int)
  | [] => some []
  | x :: rest => do return (← hash? x) :: (← hashes? rest)

end

/-- Two objects are told to be the same key at first. -/
def sameHash (x y : Object) : Bool :=
  match x.hash?, y.hash? with
  | some m, some n => m == n
  | Option.none, Option.none => x.same y
  | _, _ => false

end CommandConsole.Object
