import Rpn.Text.ByteSet
import Rpn.Tool.Options
import Rpn.Tool.Quoting

/-! A tool that replaces bytes, deletes them or joins repeated ones.  Only serves the test
environment. -/

namespace Rpn.Tool

open Host Text

inductive SetItem where
  | byte (byte : UInt8)
  | range (low high : UInt8)
  | named (name : Bytes)
  | equivalent (byte : UInt8)
  | repeated (byte : UInt8) (count : Nat)

def readSetByte : Bytes → Option (UInt8 × Bytes)
  | [] => none
  | Ascii.backslash :: rest =>
      let octal := (rest.take 3).takeWhile fun byte => 48 ≤ byte && byte ≤ 55
      if octal ≠ [] then
        let value := octal.foldl (fun number byte => number * 8 + Bytes.digitValue byte) 0
        if 255 < value then
          let value := (octal.take 2).foldl (fun number byte => number * 8 + Bytes.digitValue byte) 0
          some (value.toUInt8, rest.drop 2)
        else some (value.toUInt8, rest.drop octal.length)
      else
        match rest with
        | [] => some (Ascii.backslash, [])
        | letter :: rest =>
            let letters := (ascii "abfnrtv").zip ([7, 8, 12, 10, 13, 9, 11] : Bytes)
            some ((letters.lookup letter).getD letter, rest)
  | byte :: rest => some (byte, rest)

def readRepeatCount? (digits : Bytes) : Option Nat :=
  match digits with
  | [] => some 0
  | Ascii.zero :: rest =>
      if rest.all fun byte => 48 ≤ byte && byte ≤ 55 then
        some (rest.foldl (fun number byte => number * 8 + Bytes.digitValue byte) 0)
      else none
  | digits => Bytes.toNat? digits

def readBracket? (input : Bytes) : Option (Except Bytes SetItem × Bytes) := do
  match input with
  | Ascii.colon :: rest =>
      let name := rest.takeWhile (· != Ascii.colon)
      match rest.drop name.length with
      | Ascii.colon :: Ascii.closeBracket :: after =>
          if (ByteSet.classRanges? name).isSome then return (.ok (.named name), after)
          else return (.error (ascii "invalid character class " ++ Quoting.plain name), after)
      | _ => none
  | Ascii.equals :: byte :: Ascii.equals :: Ascii.closeBracket :: after =>
      return (.ok (.equivalent byte), after)
  | input =>
      let (byte, rest) ← readSetByte input
      match rest with
      | Ascii.asterisk :: rest =>
          let digits := rest.takeWhile (· != Ascii.closeBracket)
          match rest.drop digits.length with
          | Ascii.closeBracket :: after =>
              match readRepeatCount? digits with
              | some count => return (.ok (.repeated byte count), after)
              | none =>
                  return (.error (ascii "invalid repeat count " ++ Quoting.plain digits ++
                    ascii " in [c*n] construct"), after)
          | _ => none
      | _ => none

def readItems : Nat → Bytes → Except Bytes (List SetItem)
  | 0, _ => .ok []
  | _, [] => .ok []
  | bound + 1, input => do
      let bracket? := match input with
        | Ascii.openBracket :: rest => readBracket? rest
        | _ => none
      match bracket? with
      | some (item, rest) =>
          let item ← item
          return item :: (← readItems bound rest)
      | none =>
          match readSetByte input with
          | none => return []
          | some (low, rest) =>
              match rest with
              | Ascii.minus :: next :: after =>
                  match readSetByte (next :: after) with
                  | some (high, after) =>
                      if high < low then
                        .error (ascii "range-endpoints of '" ++
                          input.take (input.length - after.length) ++
                          ascii "' are in reverse collating sequence order")
                      else return .range low high :: (← readItems bound after)
                  | none => return [.byte low]
              | _ => return .byte low :: (← readItems bound rest)

def isCaseClass (name : Bytes) : Bool :=
  name == ascii "upper" || name == ascii "lower"

def SetItem.bytes : SetItem → Bytes
  | .byte found | .equivalent found => [found]
  | .range low high => ByteSet.members { ranges := [(low, high)] }
  | .named name => ByteSet.members { ranges := (ByteSet.classRanges? name).getD [] }
  | .repeated found count => List.replicate count found

def expandItems (items : List SetItem) (length : Nat) : Bytes :=
  let fixed := (items.map fun item => item.bytes.length).foldl (· + ·) 0
  items.flatMap fun
    | .repeated byte 0 => List.replicate (length - fixed) byte
    | item => item.bytes

def caseOffsets : Nat → List SetItem → List Nat
  | _, [] => []
  | offset, item :: rest =>
      let others := caseOffsets (offset + item.bytes.length) rest
      match item with
      | .named name => if isCaseClass name then offset :: others else others
      | _ => others

def squeeze (isMember : UInt8 → Bool) : Option UInt8 → Bytes → Bytes
  | _, [] => []
  | last, byte :: rest =>
      if last = some byte ∧ isMember byte then squeeze isMember last rest
      else byte :: squeeze isMember (some byte) rest

def translation (source target : Bytes) : Array UInt8 :=
  (source.zip target).foldl (fun table (byte, image) => table.set! byte.toNat image)
    ((Array.range 256).map (·.toUInt8))

def memberTable (bytes : Bytes) : Array Bool :=
  bytes.foldl (fun table byte => table.set! byte.toNat true) (Array.replicate 256 false)

def changeBlocks (change : Option UInt8 → Bytes → Bytes) : Nat → Option UInt8 → Run Unit
  | 0, _ => return ()
  | bound + 1, last => do
      match ← Act.read 0 with
      | .error fault => Run.worry (ascii "read error: " ++ fault.message)
      | .ok [] => return ()
      | .ok block =>
          let shown := change last block
          Run.say shown
          changeBlocks change bound (shown.getLast?.orElse fun _ => last)

def tr : Main := fun arguments => do
  let parsed ← Run.options
    [flag ["c", "C", "complement"], flag ["d", "delete"], flag ["s", "squeeze-repeats"],
      flag ["t", "truncate-set1"]] arguments true
  let deletes := parsed.has "d"
  let squeezes := parsed.has "s"
  let failWithNote := fun (text : Bytes) (note : String) => do
    Run.complain text
    Run.note (Bytes.line (ascii note))
    Run.note (Bytes.line (ascii "Try '" ++ (← get).name ++
      ascii " --help' for more information."))
    throw 1
  let check : Run Unit := do
    let count := parsed.operands.length
    let first := Quoting.plain (parsed.operands.headD [])
    if count = 0 then Run.failWithHint (ascii "missing operand")
    else if count = 1 ∧ deletes = squeezes then
      failWithNote (ascii "missing operand after " ++ first)
        (if deletes then "Two strings must be given when both deleting and squeezing repeats."
        else "Two strings must be given when translating.")
    else if count = 2 ∧ deletes ∧ !squeezes then
      failWithNote (ascii "extra operand " ++ Quoting.plain (parsed.operands.getD 1 []))
        "Only one string may be given when deleting without squeezing repeats."
    else if 2 < count then
      Run.failWithHint (ascii "extra operand " ++ Quoting.plain (parsed.operands.getD 2 []))
  check
  let warn : Bytes → Run Unit := fun text => do
    let slashes := (text.reverse.takeWhile (· == Ascii.backslash)).length
    if slashes % 2 = 1 then
      Run.complain (ascii "warning: an unescaped backslash at end of string is not portable")
  let readSet := fun (text : Bytes) => do
    warn text
    match readItems (text.length + 1) text with
    | .ok items => pure items
    | .error message => Run.fail message
  let items ← readSet (parsed.operands.headD [])
  if items.any fun
      | .repeated _ _ => true
      | _ => false then
    Run.fail (ascii "the [c*] repeat construct may not appear in string1")
  let listed := expandItems items 0
  let source := if parsed.has "c" then
      let table := memberTable listed
      ((List.range 256).map (·.toUInt8)).filter fun byte => !table.getD byte.toNat false
    else listed
  let isSource := memberTable source
  match parsed.operands with
  | [_] =>
      if deletes then
        changeBlocks (fun _ block => block.filter fun byte => !isSource.getD byte.toNat false)
          Act.unbounded none
      else
        changeBlocks (fun last block => squeeze (fun byte => isSource.getD byte.toNat false) last block)
          Act.unbounded none
      Run.status
  | _ =>
      let goals ← readSet (parsed.operands.getD 1 [])
      let target := expandItems goals source.length
      let isTarget := memberTable target
      if deletes then
        changeBlocks (fun last block =>
          squeeze (fun byte => isTarget.getD byte.toNat false) last
            (block.filter fun byte => !isSource.getD byte.toNat false)) Act.unbounded none
        Run.status
      else
        let otherClass := goals.any fun
          | .named name => !isCaseClass name
          | _ => false
        if otherClass then
          Run.complain (ascii "when translating, the only character classes that may appear in")
          Run.note (ascii "string2 are 'upper' and 'lower'\n")
          throw 1
        let offsets := caseOffsets 0 items
        if (caseOffsets 0 goals).any fun offset => !offsets.contains offset then
          Run.fail (ascii "misaligned [:upper:] and/or [:lower:] construct")
        if target = [] ∧ !parsed.has "t" then
          Run.fail (ascii "when not truncating set1, string2 must be non-empty")
        let target := if parsed.has "t" then target
          else target ++ List.replicate (source.length - target.length) (target.getLastD 0)
        let table := translation source target
        let image := fun (byte : UInt8) => table.getD byte.toNat byte
        if squeezes then
          changeBlocks (fun last block =>
            squeeze (fun byte => isTarget.getD byte.toNat false) last (block.map image))
            Act.unbounded none
        else changeBlocks (fun _ block => block.map image) Act.unbounded none
        Run.status

end Rpn.Tool
