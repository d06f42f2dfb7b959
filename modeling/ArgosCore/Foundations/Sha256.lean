import Mathlib.Algebra.Group.Nat.Defs

/-! SHA-256 of a list of bytes. The constants are computed: they are the first bits of
the fractions of the square roots and cube roots of the first primes. -/

namespace Sha256

abbrev Word := BitVec 32

def root (degree number : Nat) : Nat → Nat → Nat
  | 0, found => found
  | bits + 1, found => root degree number bits (if (found + 2 ^ bits) ^ degree ≤ number then found + 2 ^ bits else found)

def fractionOfRoot (degree number : Nat) : Word := BitVec.ofNat 32 (root degree (number * 2 ^ (32 * degree)) 40 0)

def primes : List Nat :=
  (List.range 312).filter fun number =>
    2 ≤ number && (List.range number).all fun divisor => divisor < 2 || number % divisor ≠ 0

structure State where
  (a b c d e f g h : Word)

def State.words (state : State) : List Word :=
  [state.a, state.b, state.c, state.d, state.e, state.f, state.g, state.h]

def State.add (left right : State) : State where
  a := left.a + right.a
  b := left.b + right.b
  c := left.c + right.c
  d := left.d + right.d
  e := left.e + right.e
  f := left.f + right.f
  g := left.g + right.g
  h := left.h + right.h

def initial : State :=
  let word := fractionOfRoot 2
  ⟨word 2, word 3, word 5, word 7, word 11, word 13, word 17, word 19⟩

/-- One round, with the sum of its constant and its word of the message. -/
def round (state : State) (input : Word) : State :=
  let ⟨a, b, c, d, e, f, g, h⟩ := state
  let choice := (e &&& f) ^^^ (~~~e &&& g)
  let majority := (a &&& b) ^^^ (a &&& c) ^^^ (b &&& c)
  let first := h + (e.rotateRight 6 ^^^ e.rotateRight 11 ^^^ e.rotateRight 25) + choice + input
  let second := (a.rotateRight 2 ^^^ a.rotateRight 13 ^^^ a.rotateRight 22) + majority
  ⟨first + second, a, b, c, d + first, e, f, g⟩

/-- The message schedule, the latest word first. -/
def schedule : Nat → List Word → List Word
  | 0, words => words
  | count + 1, words =>
    let near := words.getD 1 0
    let far := words.getD 14 0
    let mixed := (near.rotateRight 17 ^^^ near.rotateRight 19 ^^^ near >>> 10) + words.getD 6 0 +
      (far.rotateRight 7 ^^^ far.rotateRight 18 ^^^ far >>> 3) + words.getD 15 0
    schedule count (mixed :: words)

def compress (state : State) (block : List Word) : State :=
  let inputs := (schedule 48 block.reverse).reverse.zipWith (· + ·) (primes.map (fractionOfRoot 3))
  state.add (inputs.foldl round state)

def bigEndian (width number : Nat) : List UInt8 :=
  (List.range width).reverse.map fun position => UInt8.ofNat (number / 256 ^ position)

def pad (data : List UInt8) : List UInt8 :=
  data ++ 0x80 :: List.replicate ((119 - data.length % 64) % 64) 0 ++ bigEndian 8 (8 * data.length)

def words : List UInt8 → List Word
  | first :: second :: third :: fourth :: bytes =>
    BitVec.ofNat 32 (((first.toNat * 256 + second.toNat) * 256 + third.toNat) * 256 + fourth.toNat) :: words bytes
  | _ => []

def digestBlocks (state : State) : Nat → List Word → State
  | 0, _ => state
  | count + 1, words => digestBlocks (compress state (words.take 16)) count (words.drop 16)

def digest (data : List UInt8) : State :=
  let message := words (pad data)
  digestBlocks initial (message.length / 16) message

def hexWord (word : Word) : List Char :=
  (List.range 8).reverse.map fun position => (word.toNat / 16 ^ position % 16).digitChar

/-- `hashlib.sha256(data).hexdigest()` -/
def hexdigest (data : ByteArray) : String := String.ofList ((digest data.data.toList).words.flatMap hexWord)

theorem length_hexdigest (data : ByteArray) : (hexdigest data).length = 64 := by
  simp [hexdigest, State.words, hexWord]

theorem exists_of_mem_hexdigest {data : ByteArray} {c : Char} (member : c ∈ (hexdigest data).toList) :
    ∃ digit < 16, c = digit.digitChar := by
  rw [hexdigest, String.toList_ofList, List.mem_flatMap] at member
  obtain ⟨word, _, inside⟩ := member
  obtain ⟨position, _, rfl⟩ := List.mem_map.mp inside
  exact ⟨_, Nat.mod_lt _ (by omega), rfl⟩

/-- The test vector of the standard. -/
example : hexdigest "abc".toUTF8 = "ba7816bf8f01cfea414140de5dae2223b00361a396177a9cb410ff61f20015ad" := by decide +kernel

end Sha256
