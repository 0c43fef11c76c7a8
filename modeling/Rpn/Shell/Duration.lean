import Rpn.Bytes

/-! How long commands take, as text.  Only serves the test environment. -/

namespace Rpn.Shell.Duration

def fraction (places millis : Nat) : Bytes :=
  let digits := Bytes.ofNat millis
  (List.replicate (3 - digits.length) Ascii.zero ++ digits).take places

def seconds (long : Bool) (places millis : Nat) : Bytes :=
  let whole := millis / 1000
  let dotted := if places = 0 then [] else Ascii.dot :: fraction places (millis % 1000)
  if long then
    Bytes.ofNat (whole / 60) ++ ascii "m" ++ Bytes.ofNat (whole % 60) ++ dotted ++ ascii "s"
  else Bytes.ofNat whole ++ dotted

/-- Replace the directives of a format.  Time is spent only by waiting, so none of it is spent by
programs. -/
def format (millis : Nat) : Nat → Bytes → Bytes
  | 0, _ => []
  | _, [] => []
  | bound + 1, byte :: rest =>
      if byte = Ascii.percent then
        let places := rest.takeWhile isDigit
        let after := rest.drop places.length
        let long := after.head? == some 108
        let after := if long then after.tail else after
        let places := min ((Bytes.toNat? places).getD 3) 3
        let shown? := match Char.ofNat (after.headD 0).toNat with
          | 'R' => some (seconds long places millis)
          | 'U' | 'S' => some (seconds long places 0)
          | 'P' => some (ascii "0.00")
          | '%' => some [Ascii.percent]
          | _ => none
        match shown? with
        | some shown => shown ++ format millis bound after.tail
        | none => Ascii.percent :: format millis bound rest
      else byte :: format millis bound rest

end Rpn.Shell.Duration
