import Rpn.Bytes

/-! Digests of texts: a text is filled up to whole blocks, each of which changes a state.  Only
serves the test environment. -/

namespace Rpn.Text.Digest

def littleBytes : Nat → Nat → Bytes
  | 0, _ => []
  | count + 1, value => (value % 256).toUInt8 :: littleBytes count (value / 256)

def bigBytes (count value : Nat) : Bytes :=
  (littleBytes count value).reverse

/-- A text with a bit that ends it, zeros and its length in bits, such that it fills whole blocks.
The length takes `lengthSize` bytes. -/
def padded (blockSize lengthSize : Nat) (bigFirst : Bool) (text : Bytes) : Bytes :=
  let used := text.length + 1 + lengthSize
  let zeros := (blockSize - used % blockSize) % blockSize
  let bits := 8 * text.length
  let length := if bigFirst then bigBytes lengthSize bits else littleBytes lengthSize bits
  text ++ 128 :: List.replicate zeros 0 ++ length

/-- The words of some bytes, each of `size` bytes.  The number bounds how many bytes there are. -/
def words (size : Nat) (bigFirst : Bool) : Nat → Bytes → List Nat
  | 0, _ => []
  | _, [] => []
  | bound + 1, bytes =>
      let word := bytes.take size
      let word := if bigFirst then word else word.reverse
      word.foldl (fun value byte => value * 256 + byte.toNat) 0 ::
        words size bigFirst bound (bytes.drop size)

/-- Change a state by the blocks of a text, each of `count` words.  The number bounds how many words
there are. -/
def absorb {σ : Type} (count : Nat) (step : σ → Array Nat → σ) : Nat → σ → List Nat → σ
  | 0, state, _ => state
  | _, state, [] => state
  | bound + 1, state, words =>
      absorb count step bound (step state (words.take count).toArray) (words.drop count)

def digest {σ : Type} (wordSize count : Nat) (bigFirst : Bool) (step : σ → Array Nat → σ)
    (start : σ) (filled : Bytes) : σ :=
  absorb count step (filled.length + 1) start
    (words wordSize bigFirst (filled.length + 1) filled)

def hexadecimal (bytes : Bytes) : Bytes :=
  bytes.flatMap fun byte =>
    let digit := fun (value : UInt8) => if value < 10 then Ascii.zero + value else 87 + value
    [digit (byte / 16), digit (byte % 16)]

/-! Constants from roots of primes. -/

def rootFrom (power value : Nat) : Nat → Nat → Nat
  | 0, found => found
  | bit + 1, found =>
      let next := found + Nat.pow 2 bit
      rootFrom power value bit (if Nat.pow next power ≤ value then next else found)

def rootFraction (power bits number : Nat) : Nat :=
  rootFrom power (number * Nat.pow 2 (power * bits)) (bits + 16) 0 % Nat.pow 2 bits

def primes (count : Nat) : List Nat :=
  ((List.range 420).filter fun number =>
    2 ≤ number && ((List.range number).drop 2).all fun divisor => number % divisor ≠ 0).take count

end Rpn.Text.Digest
