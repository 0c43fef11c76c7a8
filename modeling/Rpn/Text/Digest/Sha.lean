import Rpn.Text.Digest

/-! The secure digests of 160 to 512 bits.  Only serves the test environment. -/

namespace Rpn.Text.Digest

/-! The digest of 160 bits. -/

namespace Sha1

structure State where
  a : UInt32 := 0x67452301
  b : UInt32 := 0xefcdab89
  c : UInt32 := 0x98badcfe
  d : UInt32 := 0x10325476
  e : UInt32 := 0xc3d2e1f0

def turned (word count : UInt32) : UInt32 :=
  (word <<< count) ||| (word >>> (32 - count))

def schedule (words : Array Nat) : Array UInt32 :=
  (List.range 64).foldl (fun (found : Array UInt32) index =>
    let back := fun (count : Nat) => found.getD (index + 16 - count) 0
    found.push (turned (back 3 ^^^ back 8 ^^^ back 14 ^^^ back 16) 1)) (words.map Nat.toUInt32)

def step (words : Array UInt32) (state : State) (index : Nat) : State :=
  let { a, b, c, d, e } := state
  let (mixed, constant) : UInt32 × UInt32 := match index / 20 with
    | 0 => ((b &&& c) ||| (~~~b &&& d), 0x5a827999)
    | 1 => (b ^^^ c ^^^ d, 0x6ed9eba1)
    | 2 => ((b &&& c) ||| (b &&& d) ||| (c &&& d), 0x8f1bbcdc)
    | _ => (b ^^^ c ^^^ d, 0xca62c1d6)
  { a := turned a 5 + mixed + e + constant + words.getD index 0
    b := a, c := turned b 30, d := c, e := d }

def block (state : State) (words : Array Nat) : State :=
  let after := (List.range 80).foldl (step (schedule words)) state
  { a := state.a + after.a, b := state.b + after.b, c := state.c + after.c
    d := state.d + after.d, e := state.e + after.e }

end Sha1

def sha1 (text : Bytes) : Bytes :=
  let state := digest 4 16 true Sha1.block {} (padded 64 8 true text)
  [state.a, state.b, state.c, state.d, state.e].flatMap fun word => bigBytes 4 word.toNat

/-! The digests of 224 to 512 bits. -/

/-- What the digests of one family share.  A word has `bits` bits.  `outer` and `inner` are by how
much words are turned in a step and in the schedule, where the last turn is a shift. -/
structure Family where
  bits : Nat
  rounds : Nat
  outer : List (Nat × Nat × Nat)
  inner : List (Nat × Nat × Nat)

namespace Family

def wrapped (family : Family) (value : Nat) : Nat :=
  value % Nat.pow 2 family.bits

def turned (family : Family) (word count : Nat) : Nat :=
  (word >>> count) ||| family.wrapped (word <<< (family.bits - count))

def outerMix (family : Family) (index word : Nat) : Nat :=
  let (one, two, three) := family.outer.getD index (0, 0, 0)
  family.turned word one ^^^ family.turned word two ^^^ family.turned word three

def innerMix (family : Family) (index word : Nat) : Nat :=
  let (one, two, three) := family.inner.getD index (0, 0, 0)
  family.turned word one ^^^ family.turned word two ^^^ (word >>> three)

def schedule (family : Family) (words : Array Nat) : Array Nat :=
  (List.range (family.rounds - 16)).foldl (fun (found : Array Nat) index =>
    let back := fun (count : Nat) => found.getD (index + 16 - count) 0
    found.push (family.wrapped (family.innerMix 1 (back 2) + back 7 +
      family.innerMix 0 (back 15) + back 16))) words

def step (family : Family) (constants words : Array Nat) (state : List Nat) (index : Nat) :
    List Nat :=
  match state with
  | [a, b, c, d, e, f, g, h] =>
      let choice := (e &&& f) ^^^ ((Nat.pow 2 family.bits - 1 - e) &&& g)
      let majority := (a &&& b) ^^^ (a &&& c) ^^^ (b &&& c)
      let first := h + family.outerMix 1 e + choice + constants.getD index 0 + words.getD index 0
      let second := family.outerMix 0 a + majority
      [family.wrapped (first + second), a, b, c, family.wrapped (d + first), e, f, g]
  | state => state

def block (family : Family) (constants : Array Nat) (state : List Nat) (words : Array Nat) :
    List Nat :=
  let after := (List.range family.rounds).foldl
    (family.step constants (family.schedule words)) state
  (state.zip after).map fun (old, new) => family.wrapped (old + new)

def constants (family : Family) : Array Nat :=
  ((primes family.rounds).map (rootFraction 3 family.bits)).toArray

def digest (family : Family) (constants : Array Nat) (start : List Nat) (text : Bytes) : Bytes :=
  let size := family.bits / 8
  let state := Digest.digest size 16 true (family.block constants) start
    (padded (16 * size) (2 * size) true text)
  state.flatMap (bigBytes size)

end Family

def shortFamily : Family :=
  { bits := 32, rounds := 64
    outer := [(2, 13, 22), (6, 11, 25)], inner := [(7, 18, 3), (17, 19, 10)] }

def longFamily : Family :=
  { bits := 64, rounds := 80
    outer := [(28, 34, 39), (14, 18, 41)], inner := [(1, 8, 7), (19, 61, 6)] }

def shortConstants : Array Nat := shortFamily.constants

def longConstants : Array Nat := longFamily.constants

def firstRoots (bits : Nat) : List Nat :=
  (primes 8).map (rootFraction 2 bits)

def nextRoots : List Nat :=
  ((primes 16).drop 8).map (rootFraction 2 64)

def sha224 (text : Bytes) : Bytes :=
  (shortFamily.digest shortConstants (nextRoots.map (· % Nat.pow 2 32)) text).take 28

def sha256 (text : Bytes) : Bytes :=
  shortFamily.digest shortConstants (firstRoots 32) text

def sha384 (text : Bytes) : Bytes :=
  (longFamily.digest longConstants nextRoots text).take 48

def sha512 (text : Bytes) : Bytes :=
  longFamily.digest longConstants (firstRoots 64) text

end Rpn.Text.Digest
