import Rpn.Text.Regex.Replace
import Rpn.Tool.Awk.Stream

/-! What expressions and statements do.  Only serves the test environment. -/

namespace Rpn.Tool.Awk

open Host Text

inductive Target where
  | name (name : Bytes)
  | element (table : Nat) (key : Key)
  | field (index : Nat)

inductive Flow where
  | normal
  | leave
  | again
  | giveBack (value : Value)

namespace Operator

def apply (operator : Operator) (first second : Float) : Float :=
  match operator with
  | .add => first + second
  | .subtract => first - second
  | .multiply => first * second
  | .divide => first / second
  | .modulo => Value.remainder first second
  | .power => Float.pow first second

end Operator

namespace Comparison

def holds (comparison : Comparison) (order : Ordering) : Bool :=
  match comparison with
  | .less => order == .lt
  | .lessOrEqual => order != .gt
  | .equal => order == .eq
  | .notEqual => order != .eq
  | .greater => order == .gt
  | .greaterOrEqual => order != .lt

end Comparison

/-! Functions on texts. -/

/-- A part of a text.  A start before the first byte makes the part longer. -/
def part (text : Bytes) (start : Int) (length : Option Int) : Bytes :=
  let length := length.map fun length => if start ≤ 0 then length - start else length
  let rest := text.drop (max start 1 - 1).toNat
  match length with
  | some length => rest.take length.toNat
  | none => rest

/-- Where a text stands in another, from one on.  The number counts the bytes before. -/
def indexIn (wanted : Bytes) (count : Nat) : Bytes → Nat
  | [] => if wanted = [] then count + 1 else 0
  | byte :: rest =>
      if wanted.isPrefixOf (byte :: rest) then count + 1 else indexIn wanted (count + 1) rest

/-- The text that replaces a match.  Of backslashes before an ampersand every two are one, and one
that is left over makes the ampersand stand for itself. -/
def replacement (found : Bytes) : Nat → Bytes → Bytes
  | 0, _ => []
  | _, [] => []
  | bound + 1, byte :: rest =>
      if byte = Ascii.ampersand then found ++ replacement found bound rest
      else if byte = Ascii.backslash then
        let slashes := (byte :: rest).takeWhile (· == Ascii.backslash)
        let after := (byte :: rest).drop slashes.length
        if after.head? = some Ascii.ampersand then
          let kept := slashes.take (slashes.length / 2)
          if slashes.length % 2 = 1 then
            kept ++ Ascii.ampersand :: replacement found bound (after.drop 1)
          else kept ++ found ++ replacement found bound (after.drop 1)
        else slashes ++ replacement found bound after
      else byte :: replacement found bound rest

def wholePart (number : Float) : Float :=
  if number < 0 then number.ceil else number.floor

def readMoment? (text : Bytes) : Option Int :=
  match (Exec.wordsOf (text.length + 1) text).map Bytes.toNat? with
  | some year :: some month :: some day :: some hour :: some minute :: some second :: _ =>
      some (Moment.dayNumber year month day * 86400 + hour * 3600 + minute * 60 + second)
  | _ => none

namespace Exec

def number (value : Int) : Value :=
  .float (Float.ofInt value)

def wholeOf (value : Value) : Int :=
  (Value.truncate? value.toNumber).getD (if 0 < value.toNumber then 2147483647 else -2147483648)

/-! Places. -/

def readTarget : Target → Exec Value
  | .name name => variableValue name
  | .element table key => element table key
  | .field index => fieldValue index

def writeTarget (target : Target) (value : Value) : Exec Unit := do
  match target with
  | .name name => setVariable name value
  | .element table key => setElement table key value
  | .field index => setField index value

def fieldIndex (value : Value) : Exec Nat := do
  let index := wholeOf value
  if index < 0 then fail (ascii "negative field index $" ++ .ofInt index)
  else return index.toNat

/-! Printing. -/

def printedText (value : Value) : Exec Bytes := do
  match value with
  | .float number =>
      if (Value.shortWhole? number).isSome then return value.toText []
      else return value.toText (← toText (← global "OFMT"))
  | value => toText value

def emit (sink : Option (Sink × Bytes)) (text : Bytes) : Exec Unit := do
  match sink with
  | none => Run.say text
  | some (sink, name) => printTo sink name text

def formatFailure (word : String) (source : Bytes) (result : Formatted) : Bytes :=
  let call := ascii word ++ ascii "(\"" ++ source ++ ascii "\")"
  match result with
  | .unknown number _ =>
      ascii "improper conversion(number " ++ .ofNat number ++ ascii ") in " ++ call
  | _ => ascii "not enough arguments passed to " ++ call

/-! Functions that are known to the language. -/

def numeric? (name : Bytes) : Option (Float → Float) :=
  [ ("sin", Float.sin), ("cos", Float.cos), ("exp", Float.exp), ("log", Float.log),
    ("sqrt", Float.sqrt), ("int", wholePart) ].find? (fun entry => ascii entry.1 == name)
    |>.map (·.2)

def runCommand (command : Bytes) : Exec Nat := do
  flushAll
  let own ← ownDescriptors
  let child ← commandProgram (do for number in own do Act.close number) (shellCommand command)
    (·.message)
  return endingValue (← Act.runChild child)

def draw : Exec Value := do
  let drawn := ((← get).drawn * 1103515245 + 12345) % 2147483648
  modify fun machine => { machine with drawn }
  return .float (Float.ofNat drawn / 2147483648)

def setSeed (seed : Value) : Exec Value := do
  let old := (← get).seed
  modify fun machine => { machine with seed, drawn := (wholeOf seed).toNat }
  return old

def secondsNow : Exec Int := do
  return (← currentTime : Int) / Moment.nanosPerSecond

def flushNamed (name : Bytes) : Exec Value := do
  if isStandardOutput name ∨ name = ascii "/dev/stderr" then
    Run.flush
    return .float 0
  else if (← get).outlets.any (·.name == name) then
    flushAll
    return .float 0
  else return .float (-1)

def apply (name : Bytes) (values : List Value) : Exec Value := do
  let named := fun (word : String) => name == ascii word
  match values with
  | [] =>
      if named "rand" then draw
      else if named "srand" then setSeed (number (← secondsNow))
      else if named "systime" then return number (← secondsNow)
      else if named "fflush" then
        Run.flush
        return .float 0
      else if named "strftime" then
        let moment := Moment.ofNanoseconds (← currentTime)
        return .text (Calendar.format moment (ascii "%c"))
      else return .unset
  | first :: others =>
      match numeric? name with
      | some compute => return .float (compute first.toNumber)
      | none =>
          if named "atan2" then
            return .float (Float.atan2 first.toNumber (others.headD .unset).toNumber)
          else if named "srand" then setSeed first
          else
            let text ← toText first
            if named "substr" then
              return .text (part text (wholeOf (others.headD .unset)) (others[1]?.map wholeOf))
            else if named "index" then
              return .ofNat (indexIn (← toText (others.headD .unset)) 0 text)
            else if named "tolower" then return .text (text.map toLower)
            else if named "toupper" then return .text (text.map toUpper)
            else if named "system" then return .ofNat (← runCommand text)
            else if named "close" then
              match ← closeNamed text with
              | some status => return .ofNat status
              | none => return .float (-1)
            else if named "fflush" then flushNamed text
            else if named "strftime" then
              let moment ← match others with
                | [] => pure (← currentTime : Int)
                | second :: _ => pure (wholeOf second * Moment.nanosPerSecond)
              return .text (Calendar.format (Moment.ofNanoseconds moment) text)
            else if named "mktime" then return number ((readMoment? text).getD (-1))
            else if named "sprintf" then
              match Awk.format (← convertFormat) text others with
              | .complete result => return .text result
              | result => fail (formatFailure "sprintf" text result)
            else return .unset

/-! Expressions and statements. -/

def maximalHeight : Nat := 1008

mutual

def evaluate : Nat → Expression → Exec Value
  | 0, _ => return .unset
  | bound + 1, expression => do
      match expression with
      | .number value => return .float value
      | .text value => return .text value
      | .regex matcher =>
          return .ofBool (matcher.isMatch (← toText (← fieldValue 0)))
      | .name name => variableValue name
      | .element name index =>
          let number ← tableNumber name
          let key ← keyOf bound index
          element number key
      | .field index => fieldValue (← fieldIndex (← evaluate bound index))
      | .group inner => evaluate bound inner
      | .several items => return .text (← keyOf bound items).toText
      | .assign none target value =>
          let target ← resolve bound target
          let value ← evaluate bound value
          writeTarget target value
          return value
      | .assign (some operator) target value =>
          let target ← resolve bound target
          let change ← evaluate bound value
          let old ← readTarget target
          let new := Value.float (operator.apply old.toNumber change.toNumber)
          writeTarget target new
          return new
      | .choice test yes no =>
          if (← evaluate bound test).isTrue then evaluate bound yes else evaluate bound no
      | .both first second =>
          if (← evaluate bound first).isTrue then
            return .ofBool (← evaluate bound second).isTrue
          else return .ofBool false
      | .either first second =>
          if (← evaluate bound first).isTrue then return .ofBool true
          else return .ofBool (← evaluate bound second).isTrue
      | .negation inner => return .ofBool !(← evaluate bound inner).isTrue
      | .signed negative inner =>
          let number := (← evaluate bound inner).toNumber
          return .float (if negative then -number else number)
      | .arithmetic operator first second =>
          let first ← evaluate bound first
          let second ← evaluate bound second
          return .float (operator.apply first.toNumber second.toNumber)
      | .comparison comparison first second =>
          let first ← evaluate bound first
          let second ← evaluate bound second
          return .ofBool (comparison.holds (first.compare (← convertFormat) second))
      | .matching negated subject pattern =>
          let text ← toText (← evaluate bound subject)
          let matcher ← matcherFrom bound pattern
          return .ofBool (matcher.isMatch text != negated)
      | .contains index name =>
          let key ← keyOf bound index
          let number ← tableNumber name
          let found := (← table number).contains key
          if found then modifyTable number (·.use key)
          return .ofBool found
      | .concatenation first second =>
          let first ← toText (← evaluate bound first)
          let second ← toText (← evaluate bound second)
          return .text (first ++ second)
      | .step before up target =>
          let target ← resolve bound target
          let old := (← readTarget target).toNumber
          let new := if up then old + 1 else old - 1
          writeTarget target (.float new)
          return .float (if before then new else old)
      | .call name arguments => call bound name arguments
      | .builtin name arguments => builtin bound name arguments
      | .readMain target =>
          match ← nextMainRecord Act.unbounded with
          | none => return .float 0
          | some text =>
              receive bound target text
              return .float 1
      | .readFile target file =>
          let name ← toText (← evaluate bound file)
          readNamed bound target false name
      | .readCommand target command =>
          let name ← toText (← evaluate bound command)
          readNamed bound target true name

def readNamed : Nat → Option Expression → Bool → Bytes → Exec Value
  | 0, _, _, _ => return .unset
  | bound + 1, target, isCommand, name => do
      match ← nextFrom isCommand name with
      | none => return .float (-1)
      | some none => return .float 0
      | some (some text) =>
          receive bound target text
          return .float 1

def receive : Nat → Option Expression → Bytes → Exec Unit
  | 0, _, _ => return ()
  | bound + 1, target, text => do
      match target with
      | none => setRecord (.ofInput text)
      | some target => writeTarget (← resolve bound target) (.ofInput text)

def evaluateAll : Nat → List Expression → Exec (List Value)
  | 0, _ => return []
  | _, [] => return []
  | bound + 1, expression :: rest => do
      let value ← evaluate bound expression
      return value :: (← evaluateAll bound rest)

def keyOf : Nat → List Expression → Exec Key
  | 0, _ => return .text []
  | bound + 1, index => do
      match index with
      | [single] => return (← evaluate bound single).toKey (← convertFormat)
      | several =>
          let values ← evaluateAll bound several
          let texts ← values.mapM toText
          let separator ← toText (← global "SUBSEP")
          return .text (separator.intercalate texts)

def resolve : Nat → Expression → Exec Target
  | 0, _ => return .field 0
  | bound + 1, expression => do
      match expression with
      | .name name => return .name name
      | .element name index =>
          let number ← tableNumber name
          let key ← keyOf bound index
          let _ ← element number key
          return .element number key
      | .field index => return .field (← fieldIndex (← evaluate bound index))
      | .group inner => resolve bound inner
      | _ => return .name []

def matcherFrom : Nat → Expression → Exec Regex.Matcher
  | 0, _ => matcherOf []
  | bound + 1, expression => do
      match expression with
      | .regex matcher => return matcher
      | .group inner => matcherFrom bound inner
      | expression => matcherOf (← toText (← evaluate bound expression))

def builtin : Nat → Bytes → List Expression → Exec Value
  | 0, _, _ => return .unset
  | bound + 1, name, arguments => do
      let named := fun (word : String) => name == ascii word
      match arguments with
      | [] =>
          if named "length" then return .ofNat (← toText (← fieldValue 0)).length
          else apply name []
      | first :: others =>
          if named "length" then
            match first with
            | .name held =>
                match ← slot? held with
                | some (.table number) => return .ofNat (← table number).size
                | _ => return .ofNat (← toText (← variableValue held)).length
            | first => return .ofNat (← toText (← evaluate bound first)).length
          else if named "split" then
            let text ← toText (← evaluate bound first)
            let given : Option Expression := others[1]?
            let separator ← match given with
              | none => separatorOf (← toText (← global "FS"))
              | some (.regex matcher) => pure (.regex matcher)
              | some expression => separatorOf (← toText (← evaluate bound expression))
            let parts := separator.divide text
            match others.head? with
            | some (.name held) =>
                let number ← tableNumber held
                modifyTable number fun _ => .ofList (parts.map .ofInput)
            | _ => pure ()
            return .ofNat parts.length
          else if named "sub" || named "gsub" then
            let matcher ← matcherFrom bound first
            let template ← toText (← evaluate bound (others.headD (.text [])))
            let target ← resolve bound ((others[1]?).getD (.field (.number 0)))
            let text := (← toText (← readTarget target)).toByteArray
            let make := fun (found : Regex.Match) =>
              replacement (found.text text 0) (template.length + 1) template
            let (result, count) := matcher.replace { all := named "gsub" } make text
            if count ≠ 0 then writeTarget target (.text result)
            return .ofNat count
          else if named "match" then
            let text ← toText (← evaluate bound first)
            let matcher ← matcherFrom bound (others.headD (.text []))
            let (start, length) : Int × Int := match matcher.search text.toByteArray with
              | some found => (found.start + 1, found.stop - found.start)
              | none => (0, -1)
            setGlobal (ascii "RSTART") (number start)
            setGlobal (ascii "RLENGTH") (number length)
            return number start
          else apply name (← evaluateAll bound arguments)

def passed : Nat → List Expression → Exec (List Slot)
  | 0, _ => return []
  | _, [] => return []
  | bound + 1, expression :: rest => do
      let slot ← match expression with
        | .name name =>
            match ← slot? name with
            | some (.scalar .unset) | none =>
                pure (.table (← tableNumber name))
            | some (.table number) => pure (.table number)
            | some (.scalar _) => pure (.scalar (← variableValue name))
        | expression => pure (.scalar (← evaluate bound expression))
      return slot :: (← passed bound rest)

def call : Nat → Bytes → List Expression → Exec Value
  | 0, _, _ => return .unset
  | bound + 1, name, arguments => do
      match (← get).functions[name]? with
      | none => return .unset
      | some function =>
          let slots ← passed bound arguments
          let rest := List.replicate (function.parameters.length - slots.length) (.scalar .unset)
          let before := (← get).parameters
          let height := (← get).height
          let above := height + function.parameters.length + 1
          if maximalHeight < above then
            throw (.failure (ascii "program limit exceeded: eval stack size=1024"))
          modify fun machine => { machine with
            parameters := function.parameters.zip (slots ++ rest), height := above }
          pause
          let flow ← perform bound function.body
          modify fun machine => { machine with parameters := before, height }
          match flow with
          | .giveBack value => return value
          | _ => return .unset

def perform : Nat → Statement → Exec Flow
  | 0, _ => return .normal
  | bound + 1, statement => do
      match statement with
      | .nothing => return .normal
      | .block statements => performAll bound statements
      | .evaluate expression =>
          let _ ← evaluate bound expression
          return .normal
      | .print arguments sink =>
          let texts ←
            if arguments.isEmpty then pure [← toText (← fieldValue 0)]
            else (← evaluateAll bound arguments).mapM printedText
          let sink ← sinkOf bound sink
          let separator ← toText (← global "OFS")
          let ending ← toText (← global "ORS")
          emit sink (separator.intercalate texts ++ ending)
          return .normal
      | .format arguments sink =>
          let values ← evaluateAll bound arguments
          let sink ← sinkOf bound sink
          let source ← toText (values.headD .unset)
          match Awk.format (← convertFormat) source values.tail with
          | .complete text =>
              emit sink text
              return .normal
          | .lacking text =>
              emit sink text
              fail (formatFailure "printf" source (.lacking text))
          | .unknown number text =>
              emit sink text
              fail (formatFailure "printf" source (.unknown number text))
      | .choose test yes no =>
          if (← evaluate bound test).isTrue then perform bound yes else perform bound no
      | .loop test body => repeatedly bound (some test) .nothing body
      | .loopAfter body test =>
          match ← perform bound body with
          | .leave => return .normal
          | .giveBack value => return .giveBack value
          | _ => repeatedly bound (some test) .nothing body
      | .count start test step body =>
          let _ ← perform bound start
          repeatedly bound test step body
      | .each name table body =>
          let number ← tableNumber table
          modifyTable number (·.place)
          forEach bound name (← Exec.table number).keys body
      | .delete name none =>
          let number ← tableNumber name
          modifyTable number fun _ => {}
          return .normal
      | .delete name (some index) =>
          let number ← tableNumber name
          let key ← keyOf bound index
          modifyTable number (·.erase key)
          return .normal
      | .next => throw .nextRecord
      | .nextFile => throw .nextFile
      | .exit none => throw .exit
      | .exit (some status) =>
          let value ← evaluate bound status
          modify fun machine => { machine with status := (wholeOf value % 256).toNat }
          throw .exit
      | .giveBack none => return .giveBack .unset
      | .giveBack (some value) => return .giveBack (← evaluate bound value)
      | .leave => return .leave
      | .again => return .again

def sinkOf : Nat → Option (Sink × Expression) → Exec (Option (Sink × Bytes))
  | 0, _ => return none
  | bound + 1, sink => do
      match sink with
      | none => return none
      | some (sink, target) => return some (sink, ← toText (← evaluate bound target))

def performAll : Nat → List Statement → Exec Flow
  | 0, _ => return .normal
  | _, [] => return .normal
  | bound + 1, statement :: rest => do
      pause
      match ← perform bound statement with
      | .normal => performAll bound rest
      | flow => return flow

/-- Do something as long as a test holds; `step` is done after each round. -/
def repeatedly : Nat → Option Expression → Statement → Statement → Exec Flow
  | 0, _, _, _ => return .normal
  | bound + 1, test, step, body => do
      pause
      let holds ← match test with
        | some test => pure (← evaluate bound test).isTrue
        | none => pure true
      if !holds then return .normal
      else
        match ← perform bound body with
        | .leave => return .normal
        | .giveBack value => return .giveBack value
        | _ =>
            let _ ← perform bound step
            repeatedly bound test step body

def forEach : Nat → Bytes → List Bytes → Statement → Exec Flow
  | 0, _, _, _ => return .normal
  | _, _, [], _ => return .normal
  | bound + 1, name, key :: keys, body => do
      pause
      setVariable name (.text key)
      match ← perform bound body with
      | .leave => return .normal
      | .giveBack value => return .giveBack value
      | _ => forEach bound name keys body

end

end Exec

end Rpn.Tool.Awk
