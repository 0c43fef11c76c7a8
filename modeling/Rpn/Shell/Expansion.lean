import Rpn.Host.Account
import Rpn.Shell.Brace
import Rpn.Shell.Display

/-! Expanding words: tildes, parameters, command substitutions and arithmetic, then fields and file
names.  Part of the test environment, which the results on quoted words speak of. -/

namespace Rpn.Shell

open Host

/-- What expansion asks of those who can run commands: the output of a command, and a path that
leads to a command's input or output. -/
structure Hooks where
  substitute : Bytes → Run Bytes
  connect : Bool → Bytes → Run Bytes

/-- Where a word is expanded.  A word that is `divided` becomes fields.  The text of an `operand`
can separate fields like the value that it stands for. -/
structure Setting where
  divided : Bool
  operand : Bool := false

namespace Expansion

/-! Tildes. -/

def homeOf? (shell : State) (user : Bytes) : Option Bytes :=
  if user = [] then
    match shell.known.text? (ascii "HOME") with
    | some home => some home
    | none => if shell.extended then some (ascii "/nonexistent") else none
  else if shell.extended ∧ user = ascii "+" then shell.known.text? (ascii "PWD")
  else if shell.extended ∧ user = ascii "-" then shell.known.text? (ascii "OLDPWD")
  else Account.homeOf? user

/-- Replace a tilde at the front of a text, up to one of the bytes that end the name of a user.
`last` says that the text ends the word. -/
def replaceTilde (shell : State) (stops : Bytes) (last : Bool) (content : Bytes) : Word :=
  match content with
  | Ascii.tilde :: rest =>
      let user := rest.takeWhile (!stops.contains ·)
      let after := rest.drop user.length
      match (if after = [] ∧ !last then none else homeOf? shell user) with
      | some [] => if shell.extended then [.text true [], .text false after] else [.text false after]
      | some home => [.text true home, .text false after]
      | none => [.text false content]
  | content => [.text false content]

def tilde (shell : State) (word : Word) : Word :=
  match word with
  | .text false content :: rest =>
      replaceTilde shell [Ascii.slash] rest.isEmpty content ++ rest
  | word => word

def tildes (shell : State) (word : Word) (leading : Bool := true) : Word :=
  match word with
  | [] => []
  | .text false content :: rest =>
      let texts := content.splitOn Ascii.colon
      let count := texts.length
      let pieces := texts.mapIdx fun index text =>
        let last := index + 1 < count || rest.isEmpty
        let colon := if index = 0 then [] else [Piece.text false [Ascii.colon]]
        colon ++ (if 0 < index || leading then
          replaceTilde shell [Ascii.slash, Ascii.colon] last text
        else [.text false text])
      pieces.flatten ++ tildes shell rest false
  | piece :: rest => piece :: tildes shell rest false

/-! Arithmetic. -/

def arithmeticMessage : Arithmetic.Fault → Bytes
  | .malformed => ascii "arithmetic expression: syntax error"
  | .divisionByZero => ascii "division by zero"
  | .illegalNumber text => ascii "Illegal number: " ++ text
  | .negativeExponent => ascii "exponent less than 0"

def ofPlace (shell : State) (place : Arithmetic.Place) : Parameter :=
  let (name, subscript?) := shell.known.resolve place.1
  let found := match place.2, subscript? with
    | none, some text => some (Arithmetic.Subscript.key text)
    | subscript, _ => subscript
  match found, Parameter.valueOf? shell name with
  | none, _ => Parameter.ofName shell name
  | some (.number index), value => Parameter.ofElement value index
  | some (.key key), some (.table elements) =>
      match elements.lookup key with
      | some text => .one text
      | none => .unset
  | some (.key key), value => Parameter.ofElement value ((Bytes.toNat? key).getD 0)

def textOf (shell : State) (place : Arithmetic.Place) : Bytes :=
  match ofPlace shell place with
  | .one text => text
  | _ => []

def isTable (shell : State) (name : Bytes) : Bool :=
  let (name, _) := shell.known.resolve name
  ((shell.known.get? name).map (·.shape)) == some .table

def setElement (name : Bytes) (index : Int) (text : Bytes) : Run Unit := do
  let shell ← get
  let (name, _) := shell.known.resolve name
  match isTable shell name, shell.known.value? name with
  | true, value =>
      let elements := match value with
        | some (.table elements) => elements
        | _ => []
      Run.setValue name (.table (Value.put (.ofInt index) text elements))
  | false, old =>
      let elements := (old.map Value.asList).getD []
      let last := ((elements.map (·.1)).getLast?).getD 0
      let index := if index < 0 then index + last + 1 else index
      if index < 0 then Run.fail (name ++ ascii ": bad array subscript") 1
      else Run.setValue name (.list (Value.insert index.toNat text elements))

def setPlace (place : Arithmetic.Place) (text : Bytes) : Run Unit := do
  match place with
  | (name, none) => Run.setVariable name text
  | (name, some (.number index)) => setElement name index text
  | (name, some (.key key)) =>
      let shell ← get
      let (name, _) := shell.known.resolve name
      let elements := match shell.known.value? name with
        | some (.table elements) => elements
        | _ => []
      Run.setValue name (.table (Value.put key text elements))

def calculate (text : Bytes) : Run Int := do
  let shell ← get
  match Arithmetic.run shell.extended (textOf shell) (isTable shell) text with
  | .ok (value, assignments) =>
      for (place, value) in assignments do setPlace place (.ofInt value)
      return value
  | .error fault =>
      Run.fail (arithmeticMessage fault) (if shell.extended then 1 else 2)

/-! Pieces. -/

def valueItems (setting : Setting) (quoted : Bool) (value : Parameter) : Run (List Item) := do
  match value with
  | .unset => return if quoted then [.quote] else []
  | .one text => return Item.ofText quoted setting.divided text
  | .many joined texts =>
      if setting.divided && !(quoted && joined) then
        return (texts.map (Item.ofText quoted true)).intersperse [.boundary] |>.flatten
      else
        let joiner ← if (← get).extended && !joined then pure [Ascii.space] else Run.joiner
        return Item.ofText quoted setting.divided (texts.intersperse joiner).flatten

def valueText (value : Parameter) : Run Bytes := do
  match value with
  | .unset => return []
  | .one text => return text
  | .many _ texts => return (texts.intersperse (← Run.joiner)).flatten

def itemsText (items : List Item) : Bytes :=
  Mark.text (Item.marks [Ascii.space] items)

abbrev Expander := Setting → Word → Run (List Item)

def singleText (self : Expander) (word : Word) : Run Bytes :=
  return itemsText (← self { divided := false } word)

def singlePattern (self : Expander) (word : Word) : Run Pattern :=
  return Pattern.ofMarks (Item.marks [Ascii.space] (← self { divided := false } word))
    (← Run.dialect)

def placeOf (self : Expander) (name : Bytes) (index : Word) : Run Arithmetic.Place := do
  if index.isEmpty then return (name, none)
  else
    let text ← singleText self index
    if isTable (← get) name then return (name, some (.key text))
    else return (name, some (.number (← calculate text)))

def clock? (name : Bytes) : Run (Option Bytes) := do
  let shell ← get
  if !shell.extended then return none
  else
    let second := 1000000000
    if name = ascii "SECONDS" then
      let now ← Act.look fun _ world => world.now
      return some (.ofNat (now / second - shell.started / second))
    else if name = ascii "EPOCHSECONDS" then
      return some (.ofNat ((← Act.look fun _ world => world.now) / second))
    else if name = ascii "BASHPID" then return some (.ofNat (← Act.self))
    else return none

def lookup (self : Expander) (name : Bytes) (index : Word) : Run Parameter := do
  match index with
  | [] =>
      match ← clock? name with
      | some text => return .one text
      | none => return ofPlace (← get) (name, none)
  | index =>
      let shell ← get
      let (target, _) := shell.known.resolve name
      match index.plain? with
      | some [Ascii.atSign] => return Parameter.ofArray shell target false
      | some [Ascii.asterisk] => return Parameter.ofArray shell target true
      | _ =>
          let place ← placeOf self target index
          return ofPlace (← get) place

def demandSet (name : Bytes) (value : Parameter) : Run Unit := do
  match value with
  | .unset =>
      if ← Run.isOn "nounset" then
        Run.abort (name ++
          (if (← get).extended then ascii ": unbound variable" else ascii ": parameter not set"))
  | _ => return ()

def lengthOf (name : Bytes) (value : Parameter) : Run Nat := do
  match value with
  | .unset => return 0
  | .one text => return text.length
  | .many _ texts =>
      if (← get).extended || name.length ≠ 1 then return texts.length
      else return (← valueText value).length

/-- A part of a text or of several texts.  The positional parameters begin with the name of the
shell. -/
def substring (self : Expander) (name : Bytes) (operands : List Word) (value : Parameter) :
    Run Parameter := do
  let offset ← calculate (← singleText self (operands.headD []))
  let length ← match operands with
    | [_, length] => some <$> (do calculate (← singleText self length))
    | _ => pure none
  let refused : Run Parameter := Run.fail (ascii "substring expression < 0") 1
  match value with
  | .unset => return .unset
  | .one text =>
      match Parameter.slice? offset length text with
      | some part => return .one part
      | none => refused
  | .many joined texts =>
      let shell ← get
      let positional := name = ascii "@" ∨ name = ascii "*"
      let texts := if positional then shell.name :: texts else texts
      match Parameter.slice? offset length texts with
      | some part => return .many joined part
      | none => refused

def namesWith (shell : State) (start : Bytes) : List Bytes :=
  ((shell.known.map (·.1)).filter (start.isPrefixOf ·)).mergeSort

def parameter (self : Expander) (setting : Setting) (quoted : Bool) (name : Bytes)
    (index : Word) (operation : Operation) (operands : List Word) : Run (List Item) := do
  let operand := operands.headD []
  let shell ← get
  let opened : List Item := if quoted then [.quote] else []
  let inOperand : Run (List Item) := do
    let word := if quoted then operand else tilde shell operand
    return opened ++ (← self { setting with operand := setting.divided } word)
  let value ←
    if name = [] then
      match index with
      | [] => pure Parameter.unset
      | index => pure (.one (← singleText self index))
    else lookup self name index
  match operation with
  | .value =>
      let isWhole := index.plain? == some (ascii "@") || index.plain? == some (ascii "*")
      if !isWhole then demandSet name value
      valueItems setting quoted value
  | .length =>
      demandSet name value
      return Item.ofText quoted setting.divided (.ofNat (← lengthOf name value))
  | .default colon =>
      if value.isMissing colon then inOperand else valueItems setting quoted value
  | .alternative colon =>
      if value.isMissing colon then return opened else inOperand
  | .assign colon =>
      if value.isMissing colon then
        if isName name then
          let text := itemsText (← self { divided := false } (tilde shell operand))
          setPlace (← placeOf self name index) text
          return Item.ofText quoted setting.divided text
        else Run.fail (name ++ ascii ": bad variable name")
      else valueItems setting quoted value
  | .demand colon =>
      if value.isMissing colon then
        let text := itemsText (← self { divided := false } operand)
        let text := if operand.isEmpty then
            ascii (if colon then "parameter null or not set" else "parameter not set")
          else text
        Run.abort (name ++ ascii ": " ++ text)
      else valueItems setting quoted value
  | .trimFront longest =>
      demandSet name value
      let pattern ← singlePattern self operand
      valueItems setting quoted (value.map (pattern.trimFront longest))
  | .trimBack longest =>
      demandSet name value
      let pattern ← singlePattern self operand
      valueItems setting quoted (value.map (pattern.trimBack longest))
  | .unknown => Run.fail (ascii "Bad substitution") (if shell.extended then 1 else 2)
  | .indirect =>
      let isReference := ((shell.known.get? name).map (·.reference)).getD false
      if isReference ∧ index.isEmpty then
        return Item.ofText quoted setting.divided
          (shell.known.resolveFrom Variables.maximalReferences name)
      let target ← valueText value
      if target = [] then Run.fail (name ++ ascii ": invalid indirect expansion") 1
      else
        let base := target.takeWhile (· != Ascii.openBracket)
        let subscript := (target.drop (base.length + 1)).dropLast
        let index : Word := if base.length < target.length then [.text false subscript] else []
        let value ← lookup self base index
        demandSet base value
        valueItems setting quoted value
  | .keys =>
      let joined := index.plain? == some (ascii "*")
      let (name, _) := shell.known.resolve name
      let keys := ((Parameter.valueOf? shell name).map Value.keys).getD []
      valueItems setting quoted (.many joined keys)
  | .namesWith => valueItems setting quoted (.many false (namesWith shell name))
  | .substring =>
      demandSet name value
      valueItems setting quoted (← substring self name operands value)
  | .replace all front back =>
      demandSet name value
      let pattern ← singlePattern self operand
      let replacement ← replacementOf self quoted (operands.getD 1 [])
      valueItems setting quoted (value.map (Parameter.replace pattern replacement all front back))
  | .recase casing all =>
      demandSet name value
      let pattern ← singlePattern self operand
      valueItems setting quoted (value.map (Parameter.recase pattern casing all))
  | .transform letter =>
      let (target, _) := shell.known.resolve name
      let entry := (shell.known.get? target).getD {}
      match Char.ofNat letter.toNat with
      | 'Q' => valueItems setting quoted (value.map Parameter.quotedForm)
      | 'U' => valueItems setting quoted (value.map fun text => text.map Text.toUpper)
      | 'L' => valueItems setting quoted (value.map fun text => text.map Text.toLower)
      | 'u' => valueItems setting quoted (value.map (Parameter.recase [] .upper false))
      | 'E' => valueItems setting quoted (value.map Word.withoutEscapes)
      | 'a' =>
          valueItems setting quoted (match value with
            | .unset => .one (Display.attributeLetters entry)
            | value => value.map fun _ => Display.attributeLetters entry)
      | 'A' =>
          let entry : Variable := match value with
            | .one text => { entry with value := some (.text text) }
            | _ => entry
          valueItems setting quoted (match value with
            | .unset => .unset
            | _ => .one (Display.assignment target entry))
      | 'K' | 'k' =>
          valueItems setting quoted (match entry.value, value with
            | some (.text text), _ => .one (Parameter.quotedForm text)
            | some found, .many joined _ =>
                let pairs := found.keys.zip found.texts
                if letter = 107 then
                  .many joined (pairs.flatMap fun (key, text) => [key, text])
                else
                  let shown := ((pairs.map fun (key, text) =>
                    Display.keyText key ++ Ascii.space :: Display.doubleQuoted text).intersperse
                      [Ascii.space]).flatten
                  .one (if entry.shape = .table then shown ++ [Ascii.space] else shown)
            | _, value => value.map Parameter.quotedForm)
      | _ => valueItems setting quoted value
where
  /-- What stands in the place of a match.  An ampersand stands for the match itself, unless it is
  quoted. -/
  replacementOf (self : Expander) (quoted : Bool) (word : Word) : Run (Bytes → Bytes) := do
    let items ← self { divided := false } word
    let marks := Item.marks [Ascii.space] items
    if quoted then
      let marks := unescaped marks
      return fun found => marks.flatMap fun mark =>
        if mark.stands Ascii.ampersand then found else [mark.byte]
    else
      return fun found => marks.flatMap fun mark =>
        if mark.stands Ascii.ampersand then found else [mark.byte]
  /-- Marks without the backslashes that take the meaning from ampersands; all others have it. -/
  unescaped : List Mark → List Mark
    | { byte := Ascii.backslash, .. } :: { byte := Ascii.ampersand, .. } :: rest =>
        { byte := Ascii.ampersand, quoted := true } :: unescaped rest
    | mark :: rest => { mark with quoted := false } :: unescaped rest
    | [] => []

/-- What the pieces of a word expand to.  The number bounds how deep they are nested. -/
def pieces (hooks : Hooks) : Nat → Setting → Word → Run (List Item)
  | 0, _, _ => Run.fail (ascii "word is nested too deep")
  | depth + 1, setting, word => do
      let parts ← word.mapM fun piece => do
        match piece with
        | .text quoted content =>
            return Item.ofText quoted (setting.operand && setting.divided) content
        | .parameter quoted name index operation operands =>
            parameter (pieces hooks depth) setting quoted name index operation operands
        | .command quoted source =>
            return Item.ofText quoted setting.divided (← hooks.substitute source)
        | .arithmetic quoted expression =>
            let text ← singleText (pieces hooks depth) expression
            return Item.ofText quoted setting.divided (.ofInt (← calculate text))
        | .process reading source =>
            return Item.ofText true false (← hooks.connect reading source)
        | .elements _ => return []
      return parts.flatten

def maximalDepth : Nat := 1000

def items (hooks : Hooks) (setting : Setting) (word : Word) : Run (List Item) :=
  pieces hooks maximalDepth setting word

end Expansion

open Expansion

/-! Words as a whole. -/

def fileNames (marks : List Mark) : Run (List Bytes) := do
  if ← Run.isOn "noglob" then return [Mark.text marks]
  else
    let manner ← Run.globManner
    let found ← Act.look fun self world => Glob.find world self manner marks
    let settings := (← get).settings
    if !found.isEmpty then return found
    else if !Glob.hasPatternMark manner.dialect marks then return [Mark.text marks]
    else if settings.contains (ascii "failglob") then
      Run.fail (ascii "no match: " ++ Mark.text marks) 1
    else if settings.contains (ascii "nullglob") then return []
    else return [Mark.text marks]

/-- Replace the tildes of a word.  In the extended language those after the equals sign of a word of
the form of an assignment are replaced too. -/
def argumentTildes (shell : State) (word : Word) : Word :=
  match shell.extended, word with
  | true, .text false content :: rest =>
      let name := content.takeWhile (· != Ascii.equals)
      if name.length < content.length ∧ isName name then
        .text false (name ++ [Ascii.equals]) ::
          tildes shell (.text false (content.drop (name.length + 1)) :: rest)
      else tilde shell word
  | _, word => tilde shell word

def expandWord (hooks : Hooks) (word : Word) : Run (List Bytes) := do
  let shell ← get
  let items ← items hooks { divided := true } (argumentTildes shell word)
  let found := fields (← Run.fieldSeparators) items
  return (← found.mapM fileNames).flatten

def expandWords (hooks : Hooks) (words : List Word) : Run (List Bytes) := do
  let shell ← get
  let words := if shell.extended ∧ shell.options.contains (ascii "braceexpand") then
      words.flatMap Brace.expand
    else words
  return (← words.mapM (expandWord hooks)).flatten

def expandText (hooks : Hooks) (word : Word) : Run Bytes := do
  let shell ← get
  return itemsText (← items hooks { divided := false } (tilde shell word))

def expandAssigned (hooks : Hooks) (word : Word) : Run Bytes := do
  let shell ← get
  return itemsText (← items hooks { divided := false } (tildes shell word))

def expandMarks (hooks : Hooks) (word : Word) : Run (List Mark) := do
  let shell ← get
  return Item.marks [Ascii.space] (← items hooks { divided := false } (tilde shell word))

def expandPattern (hooks : Hooks) (word : Word) : Run Pattern :=
  return Pattern.ofMarks (← expandMarks hooks word) (← Run.dialect)

def expandDocument (hooks : Hooks) (word : Word) : Run Bytes :=
  return itemsText (← items hooks { divided := false } word)

end Rpn.Shell
