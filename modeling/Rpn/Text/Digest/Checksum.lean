import Rpn.Text.Digest

/-! Short sums that tell texts apart.  Only serves the test environment. -/

namespace Rpn.Text.Digest

def cyclicEntry (byte : Nat) : UInt32 :=
  (List.range 8).foldl (fun (sum : UInt32) _ =>
    if sum &&& 0x80000000 = 0 then sum <<< 1 else (sum <<< 1) ^^^ 0x04c11db7)
    (byte.toUInt32 <<< 24)

def cyclicTable : Array UInt32 :=
  ((List.range 256).map cyclicEntry).toArray

def cyclicStep (sum : UInt32) (byte : UInt8) : UInt32 :=
  (sum <<< 8) ^^^ cyclicTable.getD ((sum >>> 24).toNat ^^^ byte.toNat) 0

def lengthBytes : Nat → Nat → Bytes
  | 0, _ => []
  | bound + 1, value =>
      if value = 0 then [] else (value % 256).toUInt8 :: lengthBytes bound (value / 256)

def cyclicSum (text : Bytes) : Nat :=
  let sum := (lengthBytes 16 text.length).foldl cyclicStep (text.foldl cyclicStep 0)
  (~~~sum).toNat

def turningSum (text : Bytes) : Nat :=
  text.foldl (fun sum byte => (sum / 2 + sum % 2 * 32768 + byte.toNat) % 65536) 0

def plainSum (text : Bytes) : Nat :=
  let sum := text.foldl (fun (sum : Nat) byte => sum + byte.toNat) 0 % Nat.pow 2 32
  let folded := sum % 65536 + sum / 65536 % 65536
  folded % 65536 + folded / 65536

end Rpn.Text.Digest
