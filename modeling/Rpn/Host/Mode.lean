import Rpn.Bytes

/-! Permissions of files and the texts that change them.  Only serves the test environment. -/

namespace Rpn.Host.Mode

def permission? (letter : UInt8) : Option Nat :=
  match Char.ofNat letter.toNat with
  | 'r' => some 4
  | 'w' => some 2
  | 'x' => some 1
  | _ => none

/-- Which classes of users a clause is about: owner, group and others. -/
structure Classes where
  owner : Bool := false
  group : Bool := false
  others : Bool := false

def Classes.isEmpty (classes : Classes) : Bool :=
  !(classes.owner || classes.group || classes.others)

inductive Named where
  | letters (letters : Bytes)
  | copied (letter : UInt8)
  | bits (bits : Nat)

/-- One change: for some classes of users, permissions are added, taken or set. -/
structure Change where
  classes : Classes
  sign : UInt8
  named : Named

def readClasses (classes : Classes) : Bytes → Classes × Bytes
  | [] => (classes, [])
  | letter :: rest =>
      match Char.ofNat letter.toNat with
      | 'u' => readClasses { classes with owner := true } rest
      | 'g' => readClasses { classes with group := true } rest
      | 'o' => readClasses { classes with others := true } rest
      | 'a' => readClasses { owner := true, group := true, others := true } rest
      | _ => (classes, letter :: rest)

def isSign (byte : UInt8) : Bool :=
  byte == Ascii.plus || byte == Ascii.minus || byte == Ascii.equals

def isOctal (byte : UInt8) : Bool :=
  48 ≤ byte && byte ≤ 55

def octal (digits : Bytes) : Nat :=
  digits.foldl (fun number byte => number * 8 + Bytes.digitValue byte) 0

def readChanges (classes : Classes) : Nat → Bytes → Option (List Change)
  | 0, _ => none
  | _, [] => some []
  | bound + 1, sign :: rest =>
      if !isSign sign then none
      else
        let digits := rest.takeWhile isOctal
        if digits ≠ [] ∧ classes.isEmpty then
          if octal digits < 4096 ∧ rest.length = digits.length then
            some [{ classes, sign, named := .bits (octal digits) }]
          else none
        else
          let (named, rest) : Named × Bytes := match rest with
            | letter :: after =>
                if (ascii "ugo").contains letter then (.copied letter, after)
                else
                  let letters := rest.takeWhile ((ascii "rwxXst").contains ·)
                  (.letters letters, rest.drop letters.length)
            | [] => (.letters [], [])
          (readChanges classes bound rest).map ({ classes, sign, named } :: ·)

def parse? (text : Bytes) : Option (List Change) :=
  if text ≠ [] ∧ text.all isOctal then
    if octal text < 4096 then
      some [{ classes := {}, sign := Ascii.equals, named := .bits (octal text) }]
    else none
  else
    ((text.splitOn Ascii.comma).mapM fun clause =>
      let (classes, rest) := readClasses {} clause
      if rest = [] then none else readChanges classes (rest.length + 1) rest).map List.flatten

def spread (classes : Classes) (bits : Nat) : Nat :=
  (if classes.owner then bits * 64 else 0) ||| (if classes.group then bits * 8 else 0) |||
    (if classes.others then bits else 0)

def bitsOf (change : Change) (classes : Classes) (isFolder : Bool) (mode : Nat) : Nat :=
  match change.named with
  | .bits bits => bits
  | .copied letter =>
      let bits := match Char.ofNat letter.toNat with
        | 'u' => mode / 64 % 8
        | 'g' => mode / 8 % 8
        | _ => mode % 8
      spread classes bits
  | .letters letters =>
      letters.foldl (fun bits letter =>
        bits ||| match Char.ofNat letter.toNat with
          | 'X' => if isFolder || mode &&& 73 != 0 then spread classes 1 else 0
          | 's' => (if classes.owner then 2048 else 0) ||| (if classes.group then 1024 else 0)
          | 't' => 512
          | _ => spread classes ((permission? letter).getD 0)) 0

/-- The mode after a change.  A clause without classes is about all of them, but leaves alone what
the mask takes away. -/
def applyChange (mask : Nat) (isFolder : Bool) (mode : Nat) (change : Change) : Nat :=
  let everyone : Classes := { owner := true, group := true, others := true }
  let implied := change.classes.isEmpty
  let classes := if implied then everyone else change.classes
  match change.named with
  | .bits bits =>
      if change.sign = Ascii.plus then mode ||| bits
      else if change.sign = Ascii.minus then mode &&& (4095 ^^^ bits)
      else if isFolder then bits ||| (mode &&& 3072) else bits
  | _ =>
      let bits := bitsOf change classes isFolder mode
      let bits := if implied then bits &&& (4095 ^^^ mask) else bits
      if change.sign = Ascii.plus then mode ||| bits
      else if change.sign = Ascii.minus then mode &&& (4095 ^^^ bits)
      else
        let special := (if classes.owner then 2048 else 0) ||| (if classes.group then 1024 else 0)
        let special := if isFolder then 0 else special
        let cleared := spread classes 7 ||| special ||| (if implied then 512 else 0)
        let cleared := if implied then cleared &&& (4095 ^^^ mask) else cleared
        (mode &&& (4095 ^^^ cleared)) ||| bits

def applyAll (mask : Nat) (isFolder : Bool) (mode : Nat) (changes : List Change) : Nat :=
  changes.foldl (applyChange mask isFolder) mode

/-! Showing. -/

def octalText (width number : Nat) : Bytes :=
  let digits := (Nat.toDigits 8 number).map Char.toUInt8
  List.replicate (width - digits.length) Ascii.zero ++ digits

def letters (bits : Nat) (special : Bool) (set unset : UInt8) : Bytes :=
  let letter := fun (bit : Nat) (shown : UInt8) => if bits &&& bit != 0 then shown else Ascii.minus
  [letter 4 114, letter 2 119,
    if special then (if bits &&& 1 != 0 then set else unset) else letter 1 120]

def text (mode : Nat) : Bytes :=
  letters (mode / 64 % 8) (mode &&& 2048 != 0) 115 83 ++
    letters (mode / 8 % 8) (mode &&& 1024 != 0) 115 83 ++
    letters (mode % 8) (mode &&& 512 != 0) 116 84

end Rpn.Host.Mode
