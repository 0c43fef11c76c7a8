import Rpn.Tool.Awk.Reader
import Rpn.Tool.Process

/-! The state of a running program: variables, tables, the record and its fields.  Only serves the
test environment. -/

namespace Rpn.Tool.Awk

open Host Text

/-- What a variable holds: a value, or a table by its number.  A variable that was never set may share
a table with a parameter to which it was passed. -/
inductive Slot where
  | scalar (value : Value)
  | table (number : Nat)

instance : Inhabited Slot := ⟨.scalar .unset⟩

structure Stream where
  number : Nat
  pending : Bytes := []
  ended : Bool := false
  child : Option Nat := none

structure Outlet where
  isCommand : Bool
  name : Bytes
  number : Nat
  pending : ByteArray := .empty
  child : Option Nat := none

/-- `fields` are right only if the record is divided.  `position` is the number of the next argument
to be read, and `ranges` are the places of the rules whose ranges have begun.  `height` counts what
the functions that are running hold. -/
structure Machine where
  tool : Tool.State
  functions : Std.HashMap Bytes Function := {}
  globals : Std.HashMap Bytes Slot := {}
  parameters : List (Bytes × Slot) := []
  tables : Std.HashMap Nat (Table Value) := {}
  tableCount : Nat := 0
  record : Value := .text []
  fields : Array Value := #[]
  divided : Bool := true
  main : Option Stream := none
  position : Nat := 1
  readAny : Bool := false
  exhausted : Bool := false
  inputs : List ((Bool × Bytes) × Stream) := []
  outlets : List Outlet := []
  ranges : List Nat := []
  matchers : Std.HashMap Bytes Regex.Matcher := {}
  height : Nat := 0
  status : Nat := 0
  seed : Value := .float 0
  drawn : Nat := 0

inductive Leave where
  | nextRecord
  | nextFile
  | exit
  | failure (message : Bytes)

abbrev Exec := Task Machine Leave

namespace Exec

instance : MonadLift Run Exec where
  monadLift run := fun machine next stop =>
    let tool := machine.tool
    let machine := { machine with tool := { name := [], system := tool.system } }
    run tool (fun value tool => next value { machine with tool })
      (fun status tool =>
        stop (.failure []) { machine with tool := { tool with status } })

def pause : Exec Unit :=
  Act.look fun _ _ => ()

/-! Variables. -/

def global (name : String) : Exec Value := do
  match (← get).globals[ascii name]? with
  | some (.scalar value) => return value
  | _ => return .unset

def setGlobal (name : Bytes) (value : Value) : Exec Unit :=
  modify fun machine =>
    { machine with globals := machine.globals.insert name (.scalar value) }

def convertFormat : Exec Bytes := do
  return (← global "CONVFMT").toText (ascii "%.6g")

def toText (value : Value) : Exec Bytes := do
  match value with
  | .float number =>
      if (Value.shortWhole? number).isSome then return value.toText []
      else return value.toText (← convertFormat)
  | value => return value.toText []

def fail {α : Type} (message : Bytes) : Exec α := do
  let name ← toText (← global "FILENAME")
  let fileCount ← toText (← global "FNR")
  let count ← toText (← global "NR")
  throw (.failure (ascii "run time error: " ++ message ++ ascii "\n\tFILENAME=\"" ++ name ++
    ascii "\" FNR=" ++ fileCount ++ ascii " NR=" ++ count))

/-! Regular expressions. -/

def matcherOf (source : Bytes) : Exec Regex.Matcher := do
  match (← get).matchers[source]? with
  | some matcher => return matcher
  | none =>
      match Reader.readRegex source with
      | .ok matcher =>
          modify fun machine => { machine with matchers := machine.matchers.insert source matcher }
          return matcher
      | .error message => throw (.failure message)

/-! Records and fields. -/

inductive Separator where
  | blanks
  | bytes
  | single (byte : UInt8)
  | regex (matcher : Regex.Matcher)

def separatorOf (text : Bytes) : Exec Separator := do
  match text with
  | [] => return .bytes
  | [byte] => return if byte = Ascii.space then .blanks else .single byte
  | text => return .regex (← matcherOf text)

def wordsOf : Nat → Bytes → List Bytes
  | 0, _ => []
  | bound + 1, text =>
      match text.dropWhile isSpace with
      | [] => []
      | text =>
          let word := text.takeWhile (!isSpace ·)
          word :: wordsOf bound (text.drop word.length)

def partsFrom (matcher : Regex.Matcher) (text : ByteArray) : Nat → Nat → Nat → List Bytes
  | 0, start, _ => [(text.extract start text.size).toList]
  | bound + 1, start, place =>
      match matcher.search text place with
      | none => [(text.extract start text.size).toList]
      | some found =>
          if found.start = found.stop then
            if text.size ≤ found.start then [(text.extract start text.size).toList]
            else partsFrom matcher text bound start (found.start + 1)
          else
            (text.extract start found.start).toList ::
              partsFrom matcher text bound found.stop found.stop

def Separator.divide (separator : Separator) (text : Bytes) : List Bytes :=
  if text = [] then []
  else
    match separator with
    | .blanks => wordsOf (text.length + 1) text
    | .bytes => text.map ([·])
    | .single byte => text.splitOn byte
    | .regex matcher => partsFrom matcher text.toByteArray (text.length + 1) 0 0

def setFieldCount (count : Nat) : Exec Unit :=
  setGlobal (ascii "NF") (.ofNat count)

def divideRecord : Exec Unit := do
  if (← get).divided then return ()
  else
    let separator ← separatorOf (← toText (← global "FS"))
    let parts := separator.divide (← toText (← get).record)
    let fields := (parts.map Value.ofInput).toArray
    modify fun machine => { machine with fields, divided := true }
    setFieldCount fields.size

def joinFields : Exec Unit := do
  let parts ← (← get).fields.toList.mapM toText
  let separator ← toText (← global "OFS")
  let record := Value.ofInput (separator.intercalate parts)
  modify fun machine => { machine with record }

def setRecord (value : Value) : Exec Unit :=
  modify fun machine => { machine with record := value, divided := false }

def resizeFields (count : Nat) : Exec Unit := do
  divideRecord
  modify fun machine => { machine with
    fields := machine.fields.take count ++ Array.replicate (count - machine.fields.size) (.text []) }
  setFieldCount count
  joinFields

def fieldValue (index : Nat) : Exec Value := do
  if index = 0 then return (← get).record
  else
    divideRecord
    return ((← get).fields[index - 1]?).getD (.text [])

def setField (index : Nat) (value : Value) : Exec Unit := do
  if index = 0 then setRecord value
  else
    divideRecord
    modify fun machine =>
      let size := machine.fields.size
      let fields := machine.fields ++ Array.replicate (index - size) (.text [])
      { machine with fields := fields.setIfInBounds (index - 1) value }
    let size := (← get).fields.size
    setFieldCount size
    joinFields

/-! Slots. -/

/-- The slot of a name: a parameter of the function that is running, or a variable of the
program. -/
def slot? (name : Bytes) : Exec (Option Slot) := do
  let machine ← get
  match machine.parameters.lookup name with
  | some slot => return some slot
  | none => return machine.globals[name]?

def replaceIn (name : Bytes) (slot : Slot) : List (Bytes × Slot) → List (Bytes × Slot)
  | [] => []
  | (other, old) :: rest =>
      if other = name then (name, slot) :: rest else (other, old) :: replaceIn name slot rest

def setSlot (name : Bytes) (slot : Slot) : Exec Unit :=
  modify fun machine =>
    if (machine.parameters.lookup name).isSome then
      { machine with parameters := replaceIn name slot machine.parameters }
    else { machine with globals := machine.globals.insert name slot }

def isParameter (name : Bytes) : Exec Bool := do
  return ((← get).parameters.lookup name).isSome

def variableValue (name : Bytes) : Exec Value := do
  if name = ascii "NF" then divideRecord
  match ← slot? name with
  | some (.scalar value) => return value
  | some (.table number) =>
      if ((← get).tables[number]?).isSome then
        fail (ascii "can't use array " ++ name ++ ascii " as a scalar")
      else return .unset
  | none => return .unset

def setVariable (name : Bytes) (value : Value) : Exec Unit := do
  if ← isParameter name then setSlot name (.scalar value)
  else
    if name = ascii "NF" then
      match Value.truncate? value.toNumber with
      | some count =>
          if count < 0 then fail (ascii "negative value assigned to NF")
          resizeFields count.toNat
          setGlobal name value
      | none => fail (ascii "negative value assigned to NF")
    else
      if name = ascii "FS" then divideRecord
      setGlobal name value

/-- The number of a table by its name.  A variable that was never set becomes one. -/
def tableNumber (name : Bytes) : Exec Nat := do
  match ← slot? name with
  | some (.table number) => return number
  | _ =>
      let number := (← get).tableCount
      modify fun machine => { machine with tableCount := number + 1 }
      setSlot name (.table number)
      return number

def table (number : Nat) : Exec (Table Value) := do
  return ((← get).tables[number]?).getD {}

def modifyTable (number : Nat) (update : Table Value → Table Value) : Exec Unit :=
  modify fun machine => { machine with
    tables := machine.tables.alter number fun table => some (update (table.getD {})) }

def element (number : Nat) (key : Key) : Exec Value := do
  match ((← get).tables[number]?).bind (·.get? key) with
  | some value =>
      modifyTable number (·.use key)
      return value
  | none =>
      modifyTable number (·.insert key .unset)
      return .unset

def setElement (number : Nat) (key : Key) (value : Value) : Exec Unit :=
  modifyTable number fun table => { table with cells := table.cells.insert key.toText value }

/-! Tables that are there from the start. -/

def setTable (name : String) (table : Table Value) : Exec Unit := do
  let number ← tableNumber (ascii name)
  modifyTable number fun _ => table

end Exec

end Rpn.Tool.Awk
