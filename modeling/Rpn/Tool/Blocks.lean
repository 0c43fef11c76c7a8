import Rpn.Tool.Dump

/-! A tool that copies blocks of bytes and changes them on the way.  Only serves the test
environment. -/

namespace Rpn.Tool

open Host Text

namespace Blocks

inductive Report where
  | full
  | counts
  | nothing
  deriving DecidableEq

structure Amount where
  number : Nat := 0
  inBytes : Bool := false

/-- What is copied, in which blocks, and what is changed.  `same` says that blocks are written as
they are read. -/
structure Order where
  input : Option Bytes := none
  output : Option Bytes := none
  inputSize : Nat := 512
  outputSize : Nat := 512
  same : Option Nat := none
  count : Option Amount := none
  skip : Amount := {}
  seek : Amount := {}
  conversions : List String := []
  inputFlags : List String := []
  outputFlags : List String := []
  report : Report := .full

def Order.converts (order : Order) (name : String) : Bool :=
  order.conversions.contains name

def Amount.bytes (amount : Amount) (size : Nat) : Nat :=
  if amount.inBytes then amount.number else amount.number * size

/-! Operands. -/

def factorOf? (suffix : Bytes) : Option Nat :=
  if suffix = ascii "b" then some 512
  else if suffix = ascii "c" then some 1
  else if suffix = ascii "w" then some 2
  else sizeFactor? suffix

def readNumber? (text : Bytes) : Option Nat :=
  let factors := (text.splitOn 120).map fun part => do
    let digits := part.takeWhile isDigit
    guard (digits ≠ [])
    let factor ← factorOf? (part.drop digits.length)
    return Bytes.valueOf digits * factor
  factors.foldl (fun product factor => do return (← product) * (← factor)) (some 1)

def readAmount? (text : Bytes) : Option Amount :=
  match readNumber? text with
  | some number => some { number }
  | none =>
      if text.getLast? = some 66 then
        (readNumber? text.dropLast).map ({ number := ·, inBytes := true })
      else none

def conversionNames : List String :=
  ["lcase", "ucase", "sparse", "swab", "sync", "noerror", "nocreat", "excl", "notrunc", "fdatasync",
    "fsync"]

def flagNames : List String :=
  ["append", "binary", "direct", "directory", "dsync", "noatime", "nocache", "noctty", "nofollow",
    "nolinks", "nonblock", "sync", "text", "fullblock", "count_bytes", "skip_bytes", "seek_bytes"]

def readWords (what : String) (known : List String) (text : Bytes) : Run (List String) :=
  (text.splitOn Ascii.comma).mapM fun word =>
    match known.find? fun name => ascii name == word with
    | some name => pure name
    | none =>
        Run.failWithHint (ascii "invalid " ++ ascii what ++ ascii ": " ++ Quoting.always word)

def takeOperand (order : Order) (operand : Bytes) : Run Order := do
  let name := operand.takeWhile (· ≠ Ascii.equals)
  let value := operand.drop (name.length + 1)
  let isPair := operand.contains Ascii.equals
  let invalid {α : Type} : Run α := Run.fail (ascii "invalid number: " ++ Quoting.always value)
  let size : Run Nat := do
    match readNumber? value with
    | some number => if number = 0 then invalid else return number
    | none => invalid
  let amount : Run Amount := do
    match readAmount? value with
    | some amount => return amount
    | none => invalid
  let unknown : Run Order :=
    Run.failWithHint (ascii "unrecognized operand " ++ Quoting.always operand)
  if !isPair then unknown
  else if name = ascii "if" then return { order with input := some value }
  else if name = ascii "of" then return { order with output := some value }
  else if name = ascii "bs" then return { order with same := some (← size) }
  else if name = ascii "ibs" then return { order with inputSize := ← size }
  else if name = ascii "obs" then return { order with outputSize := ← size }
  else if name = ascii "count" then return { order with count := some (← amount) }
  else if name = ascii "skip" ∨ name = ascii "iseek" then return { order with skip := ← amount }
  else if name = ascii "seek" ∨ name = ascii "oseek" then return { order with seek := ← amount }
  else if name = ascii "conv" then
    let names ← readWords "conversion" conversionNames value
    return { order with conversions := order.conversions ++ names }
  else if name = ascii "iflag" then
    let names ← readWords "input flag" flagNames value
    return { order with inputFlags := order.inputFlags ++ names }
  else if name = ascii "oflag" then
    let names ← readWords "output flag" flagNames value
    return { order with outputFlags := order.outputFlags ++ names }
  else if name = ascii "status" then
    if value = ascii "none" then return { order with report := .nothing }
    else if value = ascii "noxfer" then return { order with report := .counts }
    else if value = ascii "progress" then return { order with report := .full }
    else Run.failWithHint (ascii "invalid status level: " ++ Quoting.always value)
  else unknown

def settle (order : Order) : Run Order := do
  let exclude := fun (left right : String) => do
    if order.converts left && order.converts right then
      Run.fail (ascii "cannot combine " ++ ascii left ++ ascii " and " ++ ascii right)
  exclude "lcase" "ucase"
  exclude "excl" "nocreat"
  let has := fun (flags : List String) (flag : String) => flags.contains flag
  let inBytes := fun (amount : Amount) (asked : Bool) =>
    { amount with inBytes := amount.inBytes || asked }
  let order := { order with
    count := order.count.map (inBytes · (has order.inputFlags "count_bytes"))
    skip := inBytes order.skip (has order.inputFlags "skip_bytes")
    seek := inBytes order.seek (has order.outputFlags "seek_bytes") }
  match order.same with
  | none => return order
  | some size =>
      let changing := ["lcase", "ucase", "swab"]
      let order := { order with inputSize := size, outputSize := size }
      return if changing.any order.converts then { order with same := none } else order

/-! Changing bytes. -/

/-- Exchange neighbours.  A last byte without one stays. -/
def swapped : Bytes → Bytes
  | first :: second :: rest => second :: first :: swapped rest
  | rest => rest

def convert (order : Order) (block : Bytes) : Bytes :=
  let block := if order.converts "lcase" then block.map toLower
    else if order.converts "ucase" then block.map toUpper
    else block
  if order.converts "swab" then swapped block else block

/-! Copying. -/

/-- How many blocks were read and written, full ones and others, and how many bytes.  `waiting` is
not written yet. -/
structure Tally where
  readFull : Nat := 0
  readPart : Nat := 0
  wroteFull : Nat := 0
  wrotePart : Nat := 0
  bytes : Nat := 0
  waiting : Bytes := []
  failed : Bool := false

def writeBlock (name : Bytes) (size : Nat) (tally : Tally) (block : Bytes) : Run Tally := do
  match ← Act.write 1 block with
  | .error fault =>
      Run.complain (ascii "error writing " ++ Quoting.always name ++ ascii ": " ++ fault.message)
      return { tally with failed := true, waiting := [] }
  | .ok () =>
      let tally := { tally with bytes := tally.bytes + block.length }
      return if block.length = size then { tally with wroteFull := tally.wroteFull + 1 }
        else { tally with wrotePart := tally.wrotePart + 1 }

def writeFull (name : Bytes) (size : Nat) : Nat → Tally → Run Tally
  | 0, tally => return tally
  | bound + 1, tally => do
      let block := tally.waiting.take size
      if tally.failed ∨ block.length < size then return tally
      else
        let tally ← writeBlock name size { tally with waiting := tally.waiting.drop size } block
        writeFull name size bound tally

def readBlock (full : Bool) (size : Nat) : Nat → Bytes → Run (Except Fault Bytes)
  | 0, block => return .ok block
  | bound + 1, block => do
      match ← Act.read 0 (size - block.length) with
      | .error fault => return .error fault
      | .ok [] => return .ok block
      | .ok more =>
          let block := block ++ more
          if full ∧ block.length < size then readBlock full size bound block else return .ok block

def copyLoop (order : Order) (source target : Bytes) : Nat → Tally → Run Tally
  | 0, tally => return tally
  | bound + 1, tally => do
      let done := tally.readFull + tally.readPart
      let size := match order.count with
        | none => order.inputSize
        | some amount =>
            if amount.inBytes then
              min order.inputSize (amount.number - done * order.inputSize)
            else if done < amount.number then order.inputSize
            else 0
      if size = 0 ∨ tally.failed then return tally
      else
        match ← readBlock (order.inputFlags.contains "fullblock") size (size + 1) [] with
        | .error fault =>
            Run.complain (ascii "error reading " ++ Quoting.always source ++ ascii ": " ++
              fault.message)
            return { tally with failed := true }
        | .ok [] => return tally
        | .ok block =>
            let isFull := block.length = order.inputSize
            let tally := if isFull then { tally with readFull := tally.readFull + 1 }
              else { tally with readPart := tally.readPart + 1 }
            let block := if order.converts "sync" then
                block ++ List.replicate (order.inputSize - block.length) 0
              else block
            if order.same.isSome then
              copyLoop order source target bound
                (← writeBlock target order.outputSize tally block)
            else
              let tally := { tally with waiting := tally.waiting ++ convert order block }
              copyLoop order source target bound
                (← writeFull target order.outputSize (tally.waiting.length + 1) tally)

def copyAll (order : Order) (source target : Bytes) : Run Tally := do
  let tally ← copyLoop order source target Act.unbounded {}
  if tally.failed ∧ order.same.isSome then return tally
  else
    let after ← writeFull target order.outputSize (tally.waiting.length + 1)
      { tally with failed := false }
    let after ← if after.waiting = [] then pure after
      else writeBlock target order.outputSize { after with waiting := [] } after.waiting
    return { after with failed := after.failed || tally.failed }

/-! The report. -/

def sayTally (order : Order) (tally : Tally) (started : Nat) : Run Unit := do
  if order.report = .nothing then return ()
  let counts := fun (full part : Nat) (what : String) =>
    Bytes.line (Bytes.ofNat full ++ ascii "+" ++ Bytes.ofNat part ++ ascii " records " ++ ascii what)
  Run.note (counts tally.readFull tally.readPart "in" ++
    counts tally.wroteFull tally.wrotePart "out")
  if order.report = .full then
    let duration := (← Act.look fun _ world => world.now) - started
    Run.note (Bytes.line (Bytes.ofNat tally.bytes ++
      ascii (if tally.bytes = 1 then " byte" else " bytes") ++ ascii " copied, " ++
      Bytes.ofNat (duration / 1000) ++ ascii "e-06 s"))

/-! Places in files. -/

def skipInput (order : Order) (source : Bytes) : Run Unit := do
  let count := order.skip.bytes order.inputSize
  if count = 0 then return ()
  let short := Run.complain (Quoting.whenNeeded source ++ ascii ": cannot skip to specified offset")
  match ← Act.description? 0 with
  | some { target := .node id, offset, .. } =>
      let content := (← Act.files).content id
      Act.seek 0 (offset + count)
      match content with
      | .file data => if data.size < offset + count then short
      | _ => return ()
  | _ =>
      if !(← skipReading order.inputSize count count) then short
where
  /-- Read bytes that are not wanted.  The first number bounds how often is read. -/
  skipReading (size : Nat) : Nat → Nat → Run Bool
    | 0, left => return left = 0
    | bound + 1, left => do
        if left = 0 then return true
        else
          match ← Act.read 0 (min size left) with
          | .ok [] | .error _ => return false
          | .ok block => skipReading size bound (left - block.length)

/-- Go to a place in the output.  Everything after it is removed unless it shall be kept. -/
def seekOutput (order : Order) (target : Bytes) : Run Bool := do
  let count := order.seek.bytes order.outputSize
  if count = 0 then return true
  match ← Act.description? 1 with
  | some { target := .node id, offset, .. } =>
      let place := offset + count
      Act.seek 1 place
      if order.output.isSome ∧ !order.converts "notrunc" then
        Act.change fun _ world => { world with files := world.files.resize id place }
      return true
  | _ =>
      Run.complain (Quoting.whenNeeded target ++ ascii ": cannot seek: Illegal seek")
      return false

def redirect (name : Option Bytes) (number : Nat) (access : Access) : Run Unit := do
  match name with
  | none => return ()
  | some path =>
      match ← Act.openPath path access with
      | .error fault =>
          Run.fail (ascii "failed to open " ++ Quoting.always path ++ ascii ": " ++ fault.message)
      | .ok opened => Act.move opened number

end Blocks

def dd : Main := fun arguments => do
  let parsed ← Run.options [] arguments
  let started ← Act.look fun _ world => world.now
  let order ← parsed.operands.foldlM Blocks.takeOperand {}
  let order ← Blocks.settle order
  Blocks.redirect order.input 0 { read := true }
  let truncates := !order.converts "notrunc" && order.seek.number == 0
  Blocks.redirect order.output 1
    { write := true, create := !order.converts "nocreat", truncate := truncates
      exclusive := order.converts "excl", append := order.outputFlags.contains "append" }
  let source := order.input.getD (ascii "standard input")
  let target := order.output.getD (ascii "standard output")
  Blocks.skipInput order source
  if ← Blocks.seekOutput order target then
    let tally ← Blocks.copyAll order source target
    Blocks.sayTally order tally started
    return if tally.failed then 1 else 0
  else
    Blocks.sayTally order {} started
    return 1

end Rpn.Tool
