import Rpn.Tool.Lines
import Rpn.Tool.Number

/-! Tools that put things in an order: one that keeps given pairs in order, and a free one.  Only
serves the test environment. -/

namespace Rpn.Tool

open Host Text

/-! An order for pairs. -/

namespace Pairs

/-- Something to be ordered: how many things still have to come before it, and what has to come
after it, the last pair first. -/
structure Node where
  name : Bytes
  before : Nat := 0
  after : List Nat := []
  printed : Bool := false

abbrev Graph := Array Node

def addPair (graph : Graph) (first second : Nat) : Graph :=
  if first = second then graph
  else
    (graph.modify first fun node => { node with after := second :: node.after }).modify second
      fun node => { node with before := node.before + 1 }

def paired : List Bytes → List (Bytes × Bytes)
  | first :: second :: rest => (first, second) :: paired rest
  | _ => []

def graphOf (words : List Bytes) : Graph :=
  let names := (words.mergeSort fun left right => !(right < left)).foldr (fun name names =>
    if names.head? = some name then names else name :: names) []
  let places : Std.HashMap Bytes Nat :=
    names.zipIdx.foldl (fun places (name, index) => places.insert name index) ∅
  (paired words).foldl (fun graph (first, second) =>
    addPair graph (places.getD first 0) (places.getD second 0))
    (names.map fun name => ({ name } : Node)).toArray

/-- Take things from a queue as long as it has some; what follows them can join it.  The answer is
the names that were met, in reverse. -/
def serve : Nat → List Nat → Graph → List Bytes → Graph × List Bytes
  | 0, _, graph, met => (graph, met)
  | _, [], graph, met => (graph, met)
  | bound + 1, index :: queue, graph, met =>
      let node := graph.getD index { name := [] }
      let graph := graph.modify index fun node => { node with printed := true }
      let (graph, joining) := node.after.foldl (fun (graph, joining) next =>
        let graph := graph.modify next fun node => { node with before := node.before - 1 }
        if (graph.getD next { name := [] }).before = 0 then (graph, next :: joining)
        else (graph, joining)) ((graph, []) : Graph × List Nat)
      serve bound (queue ++ joining.reverse) graph (node.name :: met)

/-- Print things in their order.  What is in a loop, or after one, is left out. -/
def order (file : Bytes) (graph : Graph) : Run Unit := do
  let free := (List.range graph.size).filter fun index =>
    (graph[index]?).any fun node => node.before = 0
  let (graph, met) := serve graph.size free graph []
  for name in met.reverse do Run.sayLine name
  if graph.any (!·.printed) then
    Run.worry (Quoting.whenNeeded file ++ ascii ": input contains a loop:")

end Pairs

open Pairs in
def tsort : Main := fun arguments => do
  let parsed ← Run.options [] arguments
  let file ← match parsed.operands with
    | [] => pure [Ascii.minus]
    | [file] => pure file
    | _ :: extra :: _ => Run.failWithHint (ascii "extra operand " ++ Quoting.plain extra)
  let number ← match ← openInput file with
    | .ok number => pure number
    | .error fault => Run.fail (Quoting.whenNeeded file ++ ascii ": " ++ fault.message)
  match ← Act.readAll number with
  | .error fault => Run.fail (Quoting.whenNeeded file ++ ascii ": read error: " ++ fault.message)
  | .ok text =>
      let words := blankWords text
      if words.length % 2 = 1 then
        Run.fail (Quoting.whenNeeded file ++ ascii ": input contains an odd number of tokens")
      order file (graphOf words)
      Run.status

/-! Any order. -/

/-- Print lines in some order.  The order is free, and the lines keep theirs. -/
def shuf : Main := fun arguments => do
  let parsed ← Run.options
    [flag ["e", "echo"], valued ["i", "input-range"], valued ["n", "head-count"],
      valued ["o", "output"], flag ["r", "repeat"], flag ["z", "zero-terminated"]] arguments
  let range ← match parsed.values "i" with
    | [] => pure none
    | [text] => do
        let low := text.takeWhile (· != Ascii.minus)
        match Bytes.toNat? low, Bytes.toNat? (text.drop (low.length + 1)) with
        | some first, some last =>
            if first ≤ last + 1 then pure (some (first, last))
            else Run.fail (ascii "invalid input range: " ++ Quoting.plain text)
        | _, _ => Run.fail (ascii "invalid input range: " ++ Quoting.plain text)
    | _ => Run.fail (ascii "multiple -i options specified")
  let mut limit : Option Nat := none
  for text in parsed.values "n" do
    match Bytes.toNat? text with
    | some count => limit := some (match limit with
        | some known => min known count
        | none => count)
    | none => Run.fail (ascii "invalid line count: " ++ Quoting.plain text)
  let echoes := parsed.has "e"
  if echoes && range.isSome then Run.failWithHint (ascii "cannot combine -e and -i options")
  let ending := lineEnding parsed
  let lines ← match echoes, range, parsed.operands with
    | true, _, words => pure words
    | false, some _, extra :: _ | false, none, _ :: extra :: _ =>
        Run.failWithHint (ascii "extra operand " ++ Quoting.plain extra)
    | false, some (first, last), [] =>
        pure ((List.range' first (last + 1 - first)).map Bytes.ofNat)
    | false, none, names => do
        let file := names.headD [Ascii.minus]
        let number ← match ← openInput file with
          | .ok number => pure number
          | .error fault => Run.fail (Quoting.whenNeeded file ++ ascii ": " ++ fault.message)
        match ← Act.readAll number with
        | .error fault => Run.fail (ascii "read error: " ++ fault.message)
        | .ok text =>
            let parts := text.splitOn ending
            pure (if parts.getLast? = some [] then parts.dropLast else parts)
  let repeats := parsed.has "r"
  if repeats && lines.isEmpty && limit ≠ some 0 then Run.fail (ascii "no lines to repeat")
  let count := limit.getD (if repeats then 1000000 else lines.length)
  let chosen := if repeats then (List.range count).map fun index =>
      lines.getD (index % lines.length) []
    else lines.take count
  match parsed.value? "o" with
  | none => for line in chosen do Run.say (line ++ [ending])
  | some name =>
      match ← Act.openPath name { write := true, create := true, truncate := true } with
      | .error fault => Run.fail (Quoting.whenNeeded name ++ ascii ": " ++ fault.message)
      | .ok number =>
          let _ ← Act.write number (chosen.flatMap (· ++ [ending]))
          Act.close number
  Run.status

end Rpn.Tool
