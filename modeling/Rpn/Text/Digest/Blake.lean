import Rpn.Text.Digest.Sha

/-! A digest of a length that can be chosen.  Only serves the test environment. -/

namespace Rpn.Text.Digest

namespace Blake

def orders : List (List Nat) :=
  [[0, 1, 2, 3, 4, 5, 6, 7, 8, 9, 10, 11, 12, 13, 14, 15],
    [14, 10, 4, 8, 9, 15, 13, 6, 1, 12, 0, 2, 11, 7, 5, 3],
    [11, 8, 12, 0, 5, 2, 15, 13, 10, 14, 3, 6, 7, 1, 9, 4],
    [7, 9, 3, 1, 13, 12, 11, 14, 2, 6, 5, 10, 4, 0, 15, 8],
    [9, 0, 5, 7, 2, 4, 10, 15, 14, 1, 11, 12, 6, 8, 3, 13],
    [2, 12, 6, 10, 0, 11, 8, 3, 4, 13, 7, 5, 15, 14, 1, 9],
    [12, 5, 1, 15, 14, 13, 4, 10, 0, 7, 6, 3, 9, 2, 8, 11],
    [13, 11, 7, 14, 12, 1, 3, 9, 5, 0, 15, 4, 8, 6, 2, 10],
    [6, 15, 14, 9, 11, 3, 0, 8, 12, 2, 13, 7, 1, 4, 10, 5],
    [10, 2, 8, 4, 7, 6, 1, 5, 15, 11, 9, 14, 3, 12, 13, 0],
    [0, 1, 2, 3, 4, 5, 6, 7, 8, 9, 10, 11, 12, 13, 14, 15],
    [14, 10, 4, 8, 9, 15, 13, 6, 1, 12, 0, 2, 11, 7, 5, 3]]

def groups : List (Nat × Nat × Nat × Nat) :=
  [(0, 4, 8, 12), (1, 5, 9, 13), (2, 6, 10, 14), (3, 7, 11, 15),
    (0, 5, 10, 15), (1, 6, 11, 12), (2, 7, 8, 13), (3, 4, 9, 14)]

def turned (word count : UInt64) : UInt64 :=
  (word >>> count) ||| (word <<< (64 - count))

def mix (state : Array UInt64) (group : Nat × Nat × Nat × Nat) (one two : UInt64) :
    Array UInt64 :=
  let (i, j, k, l) := group
  let a := state.getD i 0
  let b := state.getD j 0
  let c := state.getD k 0
  let d := state.getD l 0
  let a := a + b + one
  let d := turned (d ^^^ a) 32
  let c := c + d
  let b := turned (b ^^^ c) 24
  let a := a + b + two
  let d := turned (d ^^^ a) 16
  let c := c + d
  let b := turned (b ^^^ c) 63
  (((state.setIfInBounds i a).setIfInBounds j b).setIfInBounds k c).setIfInBounds l d

def round (block : Array UInt64) (state : Array UInt64) (order : List Nat) : Array UInt64 :=
  (groups.mapIdx fun index group => (index, group)).foldl (fun state (index, group) =>
    let word := fun (place : Nat) => block.getD (order.getD place 0) 0
    mix state group (word (2 * index)) (word (2 * index + 1))) state

def initial : List UInt64 :=
  (firstRoots 64).map Nat.toUInt64

/-- Change a state by one block, after which `count` bytes were read. -/
def block (state : List UInt64) (count : Nat) (last : Bool) (words : Array UInt64) :
    List UInt64 :=
  let marks : List UInt64 :=
    [0, 0, 0, 0, count.toUInt64, 0, if last then 0xffffffffffffffff else 0, 0]
  let marked := (initial.zip marks).map fun (word, mark) => word ^^^ mark
  let mixed := orders.foldl (round words) (state ++ marked).toArray
  state.mapIdx fun index word => word ^^^ mixed.getD index 0 ^^^ mixed.getD (index + 8) 0

/-- Change a state by all blocks; the last one is never empty unless the text is. -/
def blocks : Nat → List UInt64 → Nat → Bytes → List UInt64
  | 0, state, _, _ => state
  | bound + 1, state, count, text =>
      let part := text.take 128
      let rest := text.drop 128
      let count := count + part.length
      let filled := part ++ List.replicate (128 - part.length) 0
      let words := ((words 8 false 129 filled).map Nat.toUInt64).toArray
      if rest = [] then block state count true words
      else blocks bound (block state count false words) count rest

end Blake

def blake (length : Nat) (text : Bytes) : Bytes :=
  let start := Blake.initial.mapIdx fun index word =>
    if index = 0 then word ^^^ (0x01010000 ^^^ length.toUInt64) else word
  let state := Blake.blocks (text.length + 1) start 0 text
  (state.flatMap fun word => littleBytes 8 word.toNat).take length

end Rpn.Text.Digest
