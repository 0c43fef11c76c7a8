import Rpn.Shell.Expansion

/-! Assigning variables, elements and whole arrays.  Only serves the test environment. -/

namespace Rpn.Shell.Assign

def isInteger (name : Bytes) : Run Bool := do
  let known := (← get).known
  let (name, _) := known.resolve name
  return ((known.get? name).map (·.integer)).getD false

def valueFor (name text : Bytes) : Run Bytes := do
  if ← isInteger name then return .ofInt (← Expansion.calculate text) else return text

def addedValue (name old new : Bytes) : Run Bytes := do
  if ← isInteger name then
    return .ofInt (← Expansion.calculate (old ++ ascii "+(" ++ new ++ ascii ")"))
  else return old ++ new

def placeOf (name key : Bytes) : Run Arithmetic.Place := do
  if Expansion.isTable (← get) name then return (name, some (.key key))
  else return (name, some (.number (← Expansion.calculate key)))

def setPlace (place : Arithmetic.Place) (adding : Bool) (text : Bytes) : Run Unit := do
  let text ←
    if adding then addedValue place.1 (Expansion.textOf (← get) place) text
    else valueFor place.1 text
  Expansion.setPlace place text

def keyed? (word : Word) : Option (Word × Bool × Word) := do
  match word with
  | .text false (Ascii.openBracket :: rest) :: others =>
      let (key, value) ←
        Reader.splitSubscript (if rest = [] then others else .text false rest :: others)
      let (adding, value) ← Reader.assignedValue? true value
      return (key, adding, value)
  | _ => none

/-- An element that is given to an array: a text, or with a key of its own, and whether it is added
to the old one. -/
inductive Element where
  | next (text : Bytes)
  | keyed (key : Bytes) (adding : Bool) (text : Bytes)

def given (hooks : Hooks) : List Word → Run (List Element)
  | [] => return []
  | word :: rest => do
      let found ← match keyed? word with
        | some (key, adding, value) =>
            let key ← expandText hooks key
            pure [Element.keyed key adding (← expandAssigned hooks value)]
        | none => pure ((← expandWords hooks [word]).map Element.next)
      return found ++ (← given hooks rest)

def pairs : List Bytes → List (Bytes × Bytes)
  | key :: value :: rest => (key, value) :: pairs rest
  | [key] => [(key, [])]
  | [] => []

def fillList (name : Bytes) : Nat → List Element → Run Unit
  | _, [] => return ()
  | _, .keyed key adding text :: rest => do
      let number ← Expansion.calculate key
      setPlace (name, some (.number number)) adding text
      fillList name (number.toNat + 1) rest
  | index, .next text :: rest => do
      setPlace (name, some (.number index)) false text
      fillList name (index + 1) rest

def elements (hooks : Hooks) (name : Bytes) (adding : Bool) (words : List Word) : Run Unit := do
  let shell ← get
  let (name, _) := shell.known.resolve name
  let old := shell.known.value? name
  let found ← given hooks words
  if Expansion.isTable shell name then
    let kept := match adding, old with
      | true, some (.table elements) => elements
      | _, _ => []
    Run.setValue name (.table kept)
    let texts := found.filterMap fun element => match element with
      | .next text => some text
      | .keyed _ _ _ => none
    for element in found do
      match element with
      | .keyed key adding text => setPlace (name, some (.key key)) adding text
      | .next _ => pure ()
    for (key, value) in pairs texts do setPlace (name, some (.key key)) false value
  else
    let kept := if adding then (old.map Value.asList).getD [] else []
    Run.setValue name (.list kept)
    fillList name (((kept.getLast?).map (·.1 + 1)).getD 0) found

def perform (hooks : Hooks) (assignment : Assignment) : Run Unit := do
  let name := assignment.name
  match assignment.value with
  | [.elements words] => elements hooks name assignment.adding words
  | value =>
      let text ← expandAssigned hooks value
      let place ←
        if assignment.index.isEmpty then pure (name, none)
        else placeOf name (← expandText hooks assignment.index)
      setPlace place assignment.adding text

end Rpn.Shell.Assign
