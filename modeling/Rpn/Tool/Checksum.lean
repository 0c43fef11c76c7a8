import Rpn.Text.Digest.Blake
import Rpn.Text.Digest.Checksum
import Rpn.Text.Digest.Md5
import Rpn.Tool.Options

/-! Tools that print digests and sums of files, and that check them.  Only serves the test
environment. -/

namespace Rpn.Tool

open Host Text

/-- A way to digest: its name in tagged lines and how many bits it has.  One that is `adjustable`
can have fewer. -/
structure DigestKind where
  tag : String
  bits : Nat
  digest : Nat → Bytes → Bytes
  adjustable : Bool := false

namespace DigestKind

def md5 : DigestKind := { tag := "MD5", bits := 128, digest := fun _ => Digest.md5 }

def sha1 : DigestKind := { tag := "SHA1", bits := 160, digest := fun _ => Digest.sha1 }

def sha224 : DigestKind := { tag := "SHA224", bits := 224, digest := fun _ => Digest.sha224 }

def sha256 : DigestKind := { tag := "SHA256", bits := 256, digest := fun _ => Digest.sha256 }

def sha384 : DigestKind := { tag := "SHA384", bits := 384, digest := fun _ => Digest.sha384 }

def sha512 : DigestKind := { tag := "SHA512", bits := 512, digest := fun _ => Digest.sha512 }

def blake : DigestKind :=
  { tag := "BLAKE2b", bits := 512, digest := fun bits => Digest.blake (bits / 8), adjustable := true }

end DigestKind

def needsEscape (name : Bytes) : Bool :=
  name.any fun byte => byte == Ascii.newline || byte == Ascii.backslash || byte == 13

def listedName (name : Bytes) : Bytes :=
  name.flatMap fun byte =>
    if byte = Ascii.newline then ascii "\\n" else if byte = 13 then ascii "\\r"
    else if byte = Ascii.backslash then ascii "\\\\" else [byte]

/-! Printing digests. -/

structure DigestManner where
  kind : DigestKind
  bits : Nat
  tagged : Bool := false
  binary : Bool := false
  zero : Bool := false

def DigestManner.line (manner : DigestManner) (name digest : Bytes) : Bytes :=
  let escapes := !manner.zero && needsEscape name
  let shown := if escapes then listedName name else name
  let mark := if escapes then [Ascii.backslash] else []
  let ending : UInt8 := if manner.zero then 0 else Ascii.newline
  let text := Digest.hexadecimal digest
  if manner.tagged then
    let length := if manner.bits < manner.kind.bits then Ascii.minus :: Bytes.ofNat manner.bits
      else []
    mark ++ ascii manner.kind.tag ++ length ++ ascii " (" ++ shown ++ ascii ") = " ++ text ++
      [ending]
  else
    mark ++ text ++ [Ascii.space, if manner.binary then Ascii.asterisk else Ascii.space] ++ shown ++
      [ending]

/-! Checking digests. -/

def isHexadecimal (text : Bytes) : Bool :=
  text.all fun byte => isDigit byte || (97 ≤ byte && byte ≤ 102) || (65 ≤ byte && byte ≤ 70)

/-- A line that names a file and the digest it is to have. -/
structure CheckLine where
  digest : Bytes
  name : Bytes

def checkLine? (kind : DigestKind) (line : Bytes) : Option CheckLine :=
  let digest := line.takeWhile fun byte => isHexadecimal [byte]
  match line.drop digest.length with
  | Ascii.space :: mark :: name =>
      let isProper := digest.length * 4 = (if kind.adjustable then digest.length * 4 else kind.bits)
      if isProper ∧ digest ≠ [] ∧ name ≠ [] ∧ (mark = Ascii.space ∨ mark = Ascii.asterisk) then
        some { digest, name }
      else none
  | _ => none

structure CheckCounts where
  malformed : Nat := 0
  unread : Nat := 0
  mismatched : Nat := 0
  matched : Nat := 0

structure CheckManner where
  kind : DigestKind
  quiet : Bool := false
  silent : Bool := false

def plural (count : Nat) (one many : String) : Bytes :=
  Bytes.ofNat count ++ Ascii.space :: ascii (if count = 1 then one else many)

def checkOne (manner : CheckManner) (counts : CheckCounts) (found : CheckLine) :
    Run CheckCounts := do
  let report := fun (verdict : String) => do
    if !manner.silent then Run.sayLine (found.name ++ ascii ": " ++ ascii verdict)
  match ← readInput found.name with
  | .error fault =>
      Run.flush
      Run.complain (Quoting.whenNeeded found.name ++ ascii ": " ++ fault.message)
      report "FAILED open or read"
      return { counts with unread := counts.unread + 1 }
  | .ok text =>
      let digest := Digest.hexadecimal (manner.kind.digest (found.digest.length * 4) text)
      if digest = found.digest.map toLower then
        if !manner.quiet then report "OK"
        return { counts with matched := counts.matched + 1 }
      else
        report "FAILED"
        return { counts with mismatched := counts.mismatched + 1 }

/-- Check the digests that a file lists.  The answer is whether all is well. -/
def checkFile (manner : CheckManner) (name : Bytes) : Run Bool := do
  match ← readInput name with
  | .error fault =>
      Run.worry (Quoting.whenNeeded name ++ ascii ": " ++ fault.message)
      return false
  | .ok text =>
      let source := if isStandard name then ascii "'standard input'" else Quoting.whenNeeded name
      let mut counts : CheckCounts := {}
      for line in (plainLines text).filter fun line => line ≠ [] ∧ line.head? ≠ some Ascii.hash do
        match checkLine? manner.kind line with
        | none => counts := { counts with malformed := counts.malformed + 1 }
        | some found => counts ← checkOne manner counts found
      Run.flush
      if counts.matched + counts.unread + counts.mismatched = 0 then
        Run.complain (source ++ ascii ": no properly formatted checksum lines found")
      else if !manner.silent then
        let warning := fun (count : Nat) (one many : String) => do
          if count ≠ 0 then Run.complain (ascii "WARNING: " ++ plural count one many)
        warning counts.malformed "line is improperly formatted" "lines are improperly formatted"
        warning counts.unread "listed file could not be read" "listed files could not be read"
        warning counts.mismatched "computed checksum did NOT match"
          "computed checksums did NOT match"
      return 0 < counts.matched && counts.mismatched = 0 && counts.unread = 0

/-! The tools. -/

def digestFiles (operands : List Bytes) (use : Bytes → Bytes → Run Unit) : Run Nat := do
  for name in (if operands = [] then [[Ascii.minus]] else operands) do
    match ← readInput name with
    | .error fault =>
        Run.flush
        Run.worry (Quoting.whenNeeded name ++ ascii ": " ++ fault.message)
    | .ok text => use name text
  Run.status

def refuseOutsideChecking (parsed : Parsed) : Run Unit := do
  match ["status", "quiet"].find? parsed.has with
  | some name =>
      Run.failWithHint (ascii "the --" ++ ascii name ++
        ascii " option is meaningful only when verifying checksums")
  | none => pure ()

def digestBits (kind : DigestKind) (parsed : Parsed) : Run Nat := do
  match parsed.value? "l" with
  | none => return kind.bits
  | some text =>
      match Bytes.toNat? text with
      | none => Run.fail (ascii "invalid length: " ++ Quoting.plain text)
      | some bits =>
          if bits % 8 ≠ 0 then
            Run.complain (ascii "invalid length: " ++ Quoting.plain text)
            Run.fail (ascii "length is not a multiple of 8")
          else if kind.bits < bits then
            Run.complain (ascii "invalid length: " ++ Quoting.plain text)
            Run.fail (ascii "maximum digest length for " ++ Quoting.plain (ascii kind.tag) ++
              ascii " is " ++ Bytes.ofNat kind.bits ++ ascii " bits")
          else return if bits = 0 then kind.bits else bits

def checkFiles (kind : DigestKind) (parsed : Parsed) : Run Nat := do
  let manner : CheckManner := { kind, quiet := parsed.has "quiet", silent := parsed.has "status" }
  for name in (if parsed.operands = [] then [[Ascii.minus]] else parsed.operands) do
    if !(← checkFile manner name) then Run.setStatus 1
  Run.status

def digestOptions : List Choice :=
  [flag ["b", "binary"], flag ["c", "check"], flag ["t", "text"], flag ["tag"],
    flag ["z", "zero"], flag ["quiet"], flag ["status"]]

def digestTool (kind : DigestKind) : Main := fun arguments => do
  let parsed ← Run.options
    (digestOptions ++ (if kind.adjustable then [valued ["l", "length"]] else [])) arguments
  let bits ← digestBits kind parsed
  if parsed.has "tag" ∧ parsed.last? ["b", "t", "tag"] = some "t" then
    Run.failWithHint (ascii "--tag does not support --text mode")
  if parsed.has "c" then
    checkFiles kind parsed
  else
    refuseOutsideChecking parsed
    let manner : DigestManner :=
      { kind, bits, tagged := parsed.has "tag", zero := parsed.has "z"
        binary := parsed.last? ["b", "t"] = some "b" }
    digestFiles parsed.operands fun name text => Run.say (manner.line name (kind.digest bits text))

def md5sum : Main := digestTool .md5

def sha1sum : Main := digestTool .sha1

def sha224sum : Main := digestTool .sha224

def sha256sum : Main := digestTool .sha256

def sha384sum : Main := digestTool .sha384

def sha512sum : Main := digestTool .sha512

def b2sum : Main := digestTool .blake

def blocksOf (size : Nat) (text : Bytes) : Bytes :=
  Bytes.ofNat ((text.length + size - 1) / size)

def padLeft (width : Nat) (fill : UInt8) (text : Bytes) : Bytes :=
  List.replicate (width - text.length) fill ++ text

def sumLine (plain named : Bool) (name text : Bytes) : Bytes :=
  let shown := if named then Ascii.space :: name else []
  if plain then
    Bytes.line (Bytes.ofNat (Digest.plainSum text) ++ Ascii.space :: blocksOf 512 text ++ shown)
  else
    Bytes.line (padLeft 5 Ascii.zero (Bytes.ofNat (Digest.turningSum text)) ++ Ascii.space ::
      padLeft 5 Ascii.space (blocksOf 1024 text) ++ shown)

def sum : Main := fun arguments => do
  let parsed ← Run.options [flag ["r"], flag ["s", "sysv"]] arguments
  let plain := parsed.last? ["r", "s"] = some "s"
  let named := !parsed.operands.isEmpty
  digestFiles parsed.operands fun name text => Run.say (sumLine plain named name text)

def cksum : Main := fun arguments => do
  let parsed ← Run.options [] arguments
  let named := !parsed.operands.isEmpty
  digestFiles parsed.operands fun name text =>
    Run.sayLine (Bytes.ofNat (Digest.cyclicSum text) ++ Ascii.space :: Bytes.ofNat text.length ++
      (if named then Ascii.space :: name else []))

end Rpn.Tool
