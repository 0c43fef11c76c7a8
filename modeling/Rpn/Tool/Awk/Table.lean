import Rpn.Bytes
import Std.Data.HashMap

/-! Associative tables.  A loop over the keys meets them in the order of chains: a key belongs to
the chain that its hash tells, and in a chain a key that was used later stands further in front.
Keys that are numbers have chains of their own until a text or a loop needs them among the others.
Only serves the test environment. -/

namespace Rpn.Tool.Awk

/-- A key: a whole number or a text. -/
inductive Key where
  | number (value : Int)
  | text (value : Bytes)

def wholeNumber? (text : Bytes) : Option Int := do
  let value ← match text with
    | Ascii.minus :: digits => (Bytes.toNat? digits).map fun number => -(number : Int)
    | digits => (Bytes.toNat? digits).map fun number => (number : Int)
  if Bytes.ofInt value = text then some value else none

def Key.toText : Key → Bytes
  | .number value => .ofInt value
  | .text value => value

def hash (text : Bytes) : Nat :=
  text.foldl (fun (sum : Nat) byte => (sum ^^^ byte.toNat) * 16777619 % 4294967296) 2166136261

/-- A table.  `texts` are the chains of texts and `numbers` those of numbers; as long as nothing is
`placed`, numbers have no place among the texts.  A table that is a `listing` has the numbers from
one on in no chain yet. -/
structure Table (α : Type) where
  cells : Std.HashMap Bytes α := {}
  width : Nat := 64
  texts : Array (List Bytes) := Array.replicate 64 []
  numbers : Array (List Int) := Array.replicate 64 []
  placed : Bool := false
  listing : Option Nat := none

namespace Table

variable {α : Type}

def size (table : Table α) : Nat :=
  table.cells.size

def maximalLoad : Nat := 12

def textChain (table : Table α) (text : Bytes) : Nat :=
  hash text % table.width

def numberChain (table : Table α) (number : Int) : Nat :=
  (number % table.width).toNat

def pushText (table : Table α) (text : Bytes) : Table α :=
  { table with texts := table.texts.modify (table.textChain text) (text :: ·.erase text) }

def pushNumber (table : Table α) (number : Int) : Table α :=
  { table with
    numbers := table.numbers.modify (table.numberChain number) (number :: ·.erase number) }

def split {β : Type} (stays : Nat → β → Bool) (chains : Array (List β)) : Array (List β) :=
  let old := chains.toList.zipIdx
  let kept := old.map fun (chain, place) => chain.filter (stays place)
  let moved := old.map fun (chain, place) => chain.filter (!stays place ·)
  (kept ++ moved).toArray

def widen (table : Table α) : Table α :=
  let width := 2 * table.width
  { table with
    width
    texts := split (fun place text => hash text % width == place) table.texts
    numbers := split (fun place (number : Int) => (number % width).toNat == place) table.numbers }

def prepare (table : Table α) : Table α :=
  if table.width * maximalLoad < table.size + 1 then table.widen else table

/-- How wide a table is for a number of keys.  The bound limits how often it is doubled. -/
def widthFor (count : Nat) : Nat → Nat → Nat
  | 0, width => width
  | bound + 1, width => if width * maximalLoad < count then widthFor count bound (2 * width) else width

def chainListing (table : Table α) : Table α :=
  match table.listing with
  | none => table
  | some count =>
      let width := widthFor count 64 64
      let empty := { table with
        width, texts := Array.replicate width [], numbers := Array.replicate width []
        placed := false, listing := none }
      (List.range count).foldl (fun table (index : Nat) => table.pushNumber (index + 1)) empty

def place (table : Table α) : Table α :=
  if table.placed then table
  else
    let table := table.chainListing
    let all := table.numbers.toList.flatten
    { all.foldl (fun table number => table.pushText (.ofInt number)) table with placed := true }

def useText (table : Table α) (text : Bytes) : Table α :=
  let table := table.place
  let table := if table.cells.contains text then table else table.prepare
  table.pushText text

def useNumber (table : Table α) (number : Int) : Table α :=
  let isListed := table.listing.any fun count => 1 ≤ number && number ≤ count
  if isListed then table
  else
    let table := table.chainListing
    let chain := (table.numbers[table.numberChain number]?).getD []
    if chain.contains number then table.pushNumber number
    else if table.placed then (table.useText (.ofInt number)).pushNumber number
    else table.prepare.pushNumber number

def use (table : Table α) : Key → Table α
  | .number number => table.useNumber number
  | .text text => table.useText text

/-- Whether a key is there.  Only a key that is there counts as used. -/
def contains (table : Table α) (key : Key) : Bool :=
  table.cells.contains key.toText

def get? (table : Table α) (key : Key) : Option α :=
  table.cells[key.toText]?

def insert (table : Table α) (key : Key) (value : α) : Table α :=
  let table := table.use key
  { table with cells := table.cells.insert key.toText value }

def erase (table : Table α) (key : Key) : Table α :=
  if !table.contains key then table
  else if table.size = 1 then {}
  else
    let table := table.chainListing
    let table := table.use key
    let text := key.toText
    let texts := table.texts.modify (table.textChain text) (·.erase text)
    let numbers := match wholeNumber? text with
      | some number => table.numbers.modify (table.numberChain number) (·.erase number)
      | none => table.numbers
    { table with cells := table.cells.erase text, texts, numbers }

def ofList (values : List α) : Table α :=
  let cells := values.zipIdx.foldl (fun (cells : Std.HashMap Bytes α) (value, index) =>
    cells.insert (.ofNat (index + 1)) value) {}
  { cells, listing := if values.isEmpty then none else some values.length }

def keys (table : Table α) : List Bytes :=
  table.texts.toList.flatten

end Table

end Rpn.Tool.Awk
