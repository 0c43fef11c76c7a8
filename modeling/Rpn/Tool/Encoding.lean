import Rpn.Text.Radix
import Rpn.Tool.Options

/-! Tools that write bytes with few letters, and that read them back.  Only serves the test
environment. -/

namespace Rpn.Tool

open Host Text

def wrapped (width : Nat) : Nat → Bytes → Bytes
  | 0, text => text
  | _, [] => []
  | bound + 1, text =>
      if width = 0 then text
      else Bytes.line (text.take width) ++ wrapped width bound (text.drop width)

def encodeFile (radix : Radix) : Main := fun arguments => do
  let parsed ← Run.options
    [flag ["d", "decode"], flag ["i", "ignore-garbage"], valued ["w", "wrap"]] arguments
  let width ← match parsed.value? "w" with
    | none => pure 76
    | some text =>
        match Bytes.toNat? text with
        | some width => pure (if Nat.pow 2 63 ≤ width then 0 else width)
        | none => Run.fail (ascii "invalid wrap size: " ++ Quoting.always text)
  if let _ :: extra :: _ := parsed.operands then
    Run.failWithHint (ascii "extra operand " ++ Quoting.always extra)
  let name := parsed.operands.headD [Ascii.minus]
  let opened ← openInput name
  match opened with
  | .error fault => Run.fail (Quoting.whenNeeded name ++ ascii ": " ++ fault.message)
  | .ok number =>
      match ← Act.readAll number with
      | .error fault => Run.fail (ascii "read error: " ++ fault.message)
      | .ok text =>
          if parsed.has "d" then
            let text := if parsed.has "i" then
                text.filter fun byte =>
                  radix.isDigit byte || byte == Ascii.equals || byte == Ascii.newline
              else text
            let (bytes, isRight) := radix.decode text
            Run.say bytes
            if !isRight then Run.fail (ascii "invalid input")
          else
            let digits := radix.encode text
            Run.say (wrapped width digits.length digits)
          Run.status

def base64 : Main := encodeFile .sixtyFour

def base32 : Main := encodeFile .thirtyTwo

end Rpn.Tool
