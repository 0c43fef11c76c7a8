import Rpn.Shell.Assign
import Rpn.Shell.Builtin.Variables
import Rpn.Shell.Printer

/-! Declaring variables with attributes in the extended language.  Only serves the test environment.
-/

namespace Rpn.Shell.Builtin

open Host

/-- What is asked of a declaration: attributes to give and to take, and the words that follow. -/
structure Declaration where
  command : String
  given : Bytes := []
  taken : Bytes := []
  words : List Bytes := []

namespace Declaration

def gives (declaration : Declaration) (letter : Char) : Bool :=
  declaration.given.contains letter.toNat.toUInt8

def takes (declaration : Declaration) (letter : Char) : Bool :=
  declaration.taken.contains letter.toNat.toUInt8

def read (declaration : Declaration) : List Bytes → Run Declaration
  | [] => return declaration
  | word :: rest => do
      match word with
      | [Ascii.minus, Ascii.minus] => return { declaration with words := rest }
      | Ascii.minus :: first :: letters =>
          check (first :: letters)
          read { declaration with given := declaration.given ++ first :: letters } rest
      | Ascii.plus :: first :: letters =>
          check (first :: letters)
          read { declaration with taken := declaration.taken ++ first :: letters } rest
      | _ => return { declaration with words := word :: rest }
where
  check (letters : Bytes) : Run Unit := do
    match letters.find? fun letter => !(ascii "aAfFgiIlnprtuxc").contains letter with
    | some letter =>
        Run.fail (ascii declaration.command ++ ascii ": -" ++ letter :: ascii ": invalid option")
    | none => pure ()

def describes (declaration : Declaration) (entry : Variable) : Bool :=
  let has := Display.attributeLetters entry
  declaration.given.all fun letter =>
    has.contains letter || !(ascii "aAilnrux").contains letter

def apply (declaration : Declaration) (entry : Variable) : Variable :=
  { entry with
    integer := (entry.integer || declaration.gives 'i') && !declaration.takes 'i'
    readOnly := entry.readOnly || declaration.gives 'r'
    exported := (entry.exported || declaration.gives 'x') && !declaration.takes 'x'
    recase := if declaration.gives 'u' then some true
      else if declaration.gives 'l' then some false
      else if declaration.takes 'u' || declaration.takes 'l' then none else entry.recase
    reference := (entry.reference || declaration.gives 'n') && !declaration.takes 'n'
    shape := if declaration.gives 'A' then .table
      else if declaration.gives 'a' ∧ entry.shape = .text then .list else entry.shape
    value := match entry.value with
      | some (.text text) =>
          if declaration.gives 'A' then some (.table [(ascii "0", text)])
          else if declaration.gives 'a' then some (.list [(0, text)])
          else some (.text text)
      | value => value }

end Declaration

def showDeclarations (command : String) (names : List Bytes) : Run Nat := do
  let statuses ← names.mapM fun name => do
    let shell ← get
    let dynamic := (Parameter.momentary? shell name).map fun value =>
      ({ value := some value, shape := value.shape } : Variable)
    match (shell.known.get? name).or dynamic with
    | some entry => print (Bytes.line (Display.declaration name entry))
    | none =>
        Run.complain (ascii command ++ ascii ": " ++ name ++ ascii ": not found")
        return 1
  return if statuses.any (· ≠ 0) then 1 else 0

def listDeclarations (declaration : Declaration) : Run Nat := do
  let shell ← get
  let settings := ["BASHOPTS", "SHELLOPTS"].filterMap fun name =>
    (Parameter.momentary? shell (ascii name)).map fun value =>
      (ascii name, ({ value := some value, readOnly := true } : Variable))
  let sorted := (shell.known ++ settings).mergeSort fun left right => left.1 ≤ right.1
  print ((sorted.filter fun (_, entry) => declaration.describes entry).flatMap
    fun (name, entry) => Bytes.line (Display.declaration name entry))

def showFunctions (onlyNames : Bool) (names : List Bytes) : Run Nat := do
  let shell ← get
  let sorted := shell.functions.mergeSort fun left right => left.1 ≤ right.1
  if names = [] then
    print (sorted.flatMap fun (name, body) =>
      if onlyNames then
        Bytes.line (ascii (if shell.shared.contains name then "declare -fx " else "declare -f ") ++
          name)
      else Printer.function name body)
  else
    let statuses ← names.mapM fun name => do
      match shell.functions.lookup name with
      | some body =>
          print (if onlyNames then Bytes.line name else Printer.function name body)
      | none => return 1
    return if statuses.any (· ≠ 0) then 1 else 0

def shareFunctions (on : Bool) (names : List Bytes) : Run Nat := do
  let statuses ← names.mapM fun name => do
    if ((← get).functions.lookup name).isNone then
      Run.complain (name ++ ascii ": not a function")
      return 1
    else
      modify fun shell =>
        let others := shell.shared.filter (· ≠ name)
        { shell with shared := if on then others ++ [name] else others }
      return 0
  return if statuses.any (· ≠ 0) then 1 else 0

def modifyGlobal (name : Bytes) (change : Variable → Variable) : Run Unit :=
  modify fun shell =>
    let isHidden := shell.saved.any fun frame => frame.hidden.any (·.1 == name)
    if isHidden then { shell with saved := (update shell.saved.reverse).reverse }
    else { shell with known := shell.known.modify name change }
where
  update : List Frame → List Frame
    | [] => []
    | frame :: rest =>
        if frame.hidden.any (·.1 == name) then
          { frame with hidden := frame.hidden.map fun (other, old) =>
              if other = name then (other, some (change (old.getD {}))) else (other, old) } :: rest
        else frame :: update rest

def declareOne (self : Executor) (declaration : Declaration) (hides : Bool) (word : Bytes) :
    Run Nat := do
  let (target, value?) := splitAssignment word
  let adding := value?.isSome && target.getLast? == some Ascii.plus
  let target := if adding then target.dropLast else target
  let name := target.takeWhile (· != Ascii.openBracket)
  let subscript? := if name.length < target.length then
      some ((target.drop (name.length + 1)).dropLast)
    else none
  if !isName name then
    Run.complain (ascii declaration.command ++ ascii ": `" ++ word ++
      ascii "': not a valid identifier")
    return 1
  let shell ← get
  let compound? := shell.compound.lookup word
  if hides then
    let isNew := match shell.saved with
      | frame :: _ => !frame.hidden.any (·.1 == name)
      | [] => false
    Run.hideVariable name
    if isNew then
      modify fun shell => { shell with
        known := shell.known.put name
          { exported := ((shell.known.get? name).map (·.exported)).getD false &&
              shell.settings.contains (ascii "localvar_inherit") } }
  let entry := ((← get).known.get? name).getD {}
  if entry.readOnly ∧ (value?.isSome ∨ compound?.isSome) then
    Run.complain (ascii declaration.command ++ ascii ": " ++ name ++ ascii ": readonly variable")
    return 1
  if declaration.gives 'A' ∧ entry.shape = .list ∧ entry.value.isSome then
    Run.complain (ascii declaration.command ++ ascii ": " ++ name ++
      ascii ": cannot convert indexed to associative array")
    return 1
  if declaration.gives 'n' then
    modify fun shell => { shell with
      known := shell.known.modify name fun entry => { entry with
        reference := true
        value := match value? with
          | some text => some (.text text)
          | none => entry.value } }
    return 0
  let isGlobal := declaration.gives 'g'
  let early := { declaration with given := declaration.given.filter (· ≠ 114) }
  if isGlobal ∧ !hides ∧ value?.isSome ∧ subscript?.isNone ∧ compound?.isNone then
    modifyGlobal name fun entry =>
      { early.apply entry with value := value?.map fun text => .text text }
  else
    if declaration.takes 'n' then
      modify fun shell => { shell with known := shell.known.modify name early.apply }
    else
      let (resolved, _) := (← get).known.resolve name
      modify fun shell => { shell with known := shell.known.modify resolved early.apply }
    match compound?, value? with
    | some assignment, _ => Assign.perform self.hooks assignment
    | none, some value =>
        let place ← match subscript? with
          | some subscript => Assign.placeOf name subscript
          | none => pure (name, none)
        Assign.setPlace place adding value
    | none, none => pure ()
    let (resolved, _) := (← get).known.resolve name
    if declaration.gives 'r' then
      modify fun shell => { shell with
        known := shell.known.modify resolved fun entry => { entry with readOnly := true } }
  return 0

/-- Declare variables.  All of them get the attribute `always`. -/
def declareAll (command : String) (isLocal : Bool) (always : Bytes) : Builtin :=
  fun self _ arguments => do
    let shell ← get
    let inFunction := !shell.callers.isEmpty && !shell.saved.isEmpty
    if isLocal ∧ !inFunction then
      Run.complain (ascii command ++ ascii ": can only be used in a function")
      return 1
    if isLocal ∧ arguments = [ascii "-"] then
      Run.keepOptions
      return 0
    let declaration ← Declaration.read { command, given := always } arguments
    if declaration.gives 'F' ∨ declaration.gives 'f' then
      if declaration.words ≠ [] ∧ (declaration.gives 'x' ∨ declaration.takes 'x') then
        shareFunctions (!declaration.takes 'x' && !declaration.gives 'n') declaration.words
      else if always ≠ [] then return 0
      else showFunctions (declaration.gives 'F') declaration.words
    else if declaration.gives 'p' ∧ declaration.words ≠ [] then
      showDeclarations command declaration.words
    else if declaration.words = [] then
      if declaration.given = [] ∧ declaration.taken = [] ∧ always = [] then variableListing
      else listDeclarations declaration
    else
      let declaration := if always = ascii "x" ∧ declaration.gives 'n' then
          { declaration with given := [], taken := ascii "x" }
        else declaration
      let hides := inFunction && always.isEmpty && !declaration.gives 'g'
      let statuses ← declaration.words.mapM (declareOne self declaration hides)
      return if statuses.any (· ≠ 0) then 1 else 0

def declare : Builtin :=
  declareAll "declare" false []

def declareLocal : Builtin :=
  declareAll "local" true []

def declareExported : Builtin :=
  declareAll "export" false (ascii "x")

def declareReadOnly : Builtin :=
  declareAll "readonly" false (ascii "r")

def letValues : Builtin := fun _ _ arguments => do
  if arguments = [] then
    Run.complain (ascii "let: expression expected")
    return 1
  let values ← arguments.mapM Expansion.calculate
  return if values.getLast? = some 0 then 1 else 0

end Rpn.Shell.Builtin
