import Rpn.Shell.Command

/-! Variables of the shell.  Part of the test environment. -/

namespace Rpn.Shell

/-- A variable holds a text, a list of texts by number, or a table of texts by key. -/
inductive Value where
  | text (text : Bytes)
  | list (elements : List (Nat × Bytes))
  | table (elements : List (Bytes × Bytes))

inductive Shape where
  | text
  | list
  | table
  deriving DecidableEq, Repr

/-- A variable without a value is known by its attributes only.  With `recase` its values are
written in capital letters or in small ones.  A `reference` has the name of another variable as its
value, which it stands for. -/
structure Variable where
  value : Option Value := none
  shape : Shape := .text
  reference : Bool := false
  exported : Bool := false
  readOnly : Bool := false
  integer : Bool := false
  recase : Option Bool := none

abbrev Variables := List (Bytes × Variable)

namespace Value

def text? : Value → Option Bytes
  | .text content => some content
  | .list elements => elements.lookup 0
  | .table elements => elements.lookup (ascii "0")

def texts : Value → List Bytes
  | .text content => [content]
  | .list elements => elements.map (·.2)
  | .table elements => elements.map (·.2)

def keys : Value → List Bytes
  | .text _ => [ascii "0"]
  | .list elements => elements.map fun (number, _) => .ofNat number
  | .table elements => elements.map (·.1)

def insert (number : Nat) (text : Bytes) : List (Nat × Bytes) → List (Nat × Bytes)
  | [] => [(number, text)]
  | (other, old) :: rest =>
      if number < other then (number, text) :: (other, old) :: rest
      else if number = other then (number, text) :: rest
      else (other, old) :: insert number text rest

def asList : Value → List (Nat × Bytes)
  | .text content => [(0, content)]
  | .list elements => elements
  | .table elements => elements.mapIdx fun number (_, content) => (number, content)

def bucket (key : Bytes) (places : Nat := 1024) : Nat :=
  let step := fun (hash : UInt32) (byte : UInt8) =>
    (hash * 16777619) ^^^ (if byte < 128 then byte.toUInt32 else byte.toUInt32 ||| 0xffffff00)
  (key.foldl step 2166136261).toNat % places

/-- Put a new entry into a table, which is kept in the order of the places.  Of entries in one place
the newest comes first. -/
def insertByBucket (key text : Bytes) : List (Bytes × Bytes) → List (Bytes × Bytes)
  | [] => [(key, text)]
  | (other, old) :: rest =>
      if bucket key ≤ bucket other then (key, text) :: (other, old) :: rest
      else (other, old) :: insertByBucket key text rest

def put (key text : Bytes) (elements : List (Bytes × Bytes)) : List (Bytes × Bytes) :=
  if elements.any (·.1 == key) then
    elements.map fun (other, old) => if other = key then (key, text) else (other, old)
  else insertByBucket key text elements

def shape : Value → Shape
  | .text _ => .text
  | .list _ => .list
  | .table _ => .table

def ofTexts (texts : List Bytes) : Value :=
  .list (texts.mapIdx fun number content => (number, content))

end Value

namespace Variables

def get? (known : Variables) (name : Bytes) : Option Variable :=
  known.lookup name

def value? (known : Variables) (name : Bytes) : Option Value := do
  (← known.lookup name).value

def text? (known : Variables) (name : Bytes) : Option Bytes := do
  (← known.value? name).text?

def maximalReferences : Nat := 8

def resolveFrom (known : Variables) : Nat → Bytes → Bytes
  | 0, name => name
  | bound + 1, name =>
      match known.lookup name with
      | some { reference := true, value := some (.text target), .. } =>
          resolveFrom known bound target
      | _ => name

def resolve (known : Variables) (name : Bytes) : Bytes × Option Bytes :=
  let target := resolveFrom known maximalReferences name
  let base := target.takeWhile (· != Ascii.openBracket)
  if base.length < target.length then (base, some (target.drop (base.length + 1)).dropLast)
  else (target, none)

def put (name : Bytes) (entry : Variable) : Variables → Variables
  | [] => [(name, entry)]
  | (other, old) :: rest =>
      if name = other then (name, entry) :: rest else (other, old) :: put name entry rest

def erase (known : Variables) (name : Bytes) : Variables :=
  known.filter (·.1 ≠ name)

def modify (known : Variables) (name : Bytes) (change : Variable → Variable) : Variables :=
  known.put name (change ((known.get? name).getD {}))

def group (name : Bytes) : Nat :=
  ((name.headD 0).toNat * 16 + (name.map (·.toNat)).foldl (· + ·) 0) % 39

def exportedPairs (known : Variables) : List (Bytes × Bytes) :=
  known.filterMap fun (name, entry) =>
    if entry.exported then
      (entry.value.bind Value.text?).map fun text => (name, name ++ Ascii.equals :: text)
    else none

def exported (known : Variables) : List Bytes :=
  (known.exportedPairs.mergeSort fun left right => group left.1 ≤ group right.1).map (·.2)

/-- The exported variables as a program finds them in the extended language: those of each layer
first, the innermost one before the others, and then the rest, each by their places in a table. -/
def exportedInLayers (known : Variables) (layers : List (List Bytes)) : List Bytes :=
  let pairs := known.exportedPairs.reverse
  let inner := (layers.flatMap fun names =>
    names.mergeSort fun left right => Value.bucket left 4 ≤ Value.bucket right 4).eraseDups
  let rest := pairs.filter (!inner.contains ·.1)
  inner.filterMap (pairs.lookup ·) ++
    (rest.mergeSort fun left right => Value.bucket left.1 ≤ Value.bucket right.1).map (·.2)

end Variables

end Rpn.Shell
