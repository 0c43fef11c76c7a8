import Rpn.Text.Digest

/-! The digest of 128 bits.  Only serves the test environment. -/

namespace Rpn.Text.Digest.Md5

structure State where
  a : UInt32 := 0x67452301
  b : UInt32 := 0xefcdab89
  c : UInt32 := 0x98badcfe
  d : UInt32 := 0x10325476

def sines : Array UInt32 :=
  #[0xd76aa478, 0xe8c7b756, 0x242070db, 0xc1bdceee, 0xf57c0faf, 0x4787c62a, 0xa8304613, 0xfd469501,
    0x698098d8, 0x8b44f7af, 0xffff5bb1, 0x895cd7be, 0x6b901122, 0xfd987193, 0xa679438e, 0x49b40821,
    0xf61e2562, 0xc040b340, 0x265e5a51, 0xe9b6c7aa, 0xd62f105d, 0x02441453, 0xd8a1e681, 0xe7d3fbc8,
    0x21e1cde6, 0xc33707d6, 0xf4d50d87, 0x455a14ed, 0xa9e3e905, 0xfcefa3f8, 0x676f02d9, 0x8d2a4c8a,
    0xfffa3942, 0x8771f681, 0x6d9d6122, 0xfde5380c, 0xa4beea44, 0x4bdecfa9, 0xf6bb4b60, 0xbebfbc70,
    0x289b7ec6, 0xeaa127fa, 0xd4ef3085, 0x04881d05, 0xd9d4d039, 0xe6db99e5, 0x1fa27cf8, 0xc4ac5665,
    0xf4292244, 0x432aff97, 0xab9423a7, 0xfc93a039, 0x655b59c3, 0x8f0ccc92, 0xffeff47d, 0x85845dd1,
    0x6fa87e4f, 0xfe2ce6e0, 0xa3014314, 0x4e0811a1, 0xf7537e82, 0xbd3af235, 0x2ad7d2bb, 0xeb86d391]

def turns : Array UInt32 :=
  #[7, 12, 17, 22, 5, 9, 14, 20, 4, 11, 16, 23, 6, 10, 15, 21]

def turned (word count : UInt32) : UInt32 :=
  (word <<< count) ||| (word >>> (32 - count))

def step (block : Array Nat) (state : State) (index : Nat) : State :=
  let { a, b, c, d } := state
  let (mixed, place) := match index / 16 with
    | 0 => ((b &&& c) ||| (~~~b &&& d), index)
    | 1 => ((d &&& b) ||| (~~~d &&& c), 5 * index + 1)
    | 2 => (b ^^^ c ^^^ d, 3 * index + 5)
    | _ => (c ^^^ (b ||| ~~~d), 7 * index)
  let word := (block.getD (place % 16) 0).toUInt32
  let sum := a + mixed + sines.getD index 0 + word
  { a := d, b := b + turned sum (turns.getD (index / 16 * 4 + index % 4) 0), c := b, d := c }

def block (state : State) (words : Array Nat) : State :=
  let after := (List.range 64).foldl (step words) state
  { a := state.a + after.a, b := state.b + after.b, c := state.c + after.c, d := state.d + after.d }

end Md5

def md5 (text : Bytes) : Bytes :=
  let state := digest 4 16 false Md5.block {} (padded 64 8 false text)
  [state.a, state.b, state.c, state.d].flatMap fun word => littleBytes 4 word.toNat

end Rpn.Text.Digest
