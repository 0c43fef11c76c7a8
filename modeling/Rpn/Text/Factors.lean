/-! Prime factors of numbers.  Only serves the test environment. -/

namespace Rpn.Text.Factors

def powMod (modulus : Nat) : Nat → Nat → Nat → Nat
  | 0, _, _ => 1 % modulus
  | bound + 1, base, exponent =>
      if exponent = 0 then 1 % modulus
      else
        let half := powMod modulus bound (base * base % modulus) (exponent / 2)
        if exponent % 2 = 1 then base * half % modulus else half

def halvings : Nat → Nat → Nat × Nat
  | 0, number => (0, number)
  | bound + 1, number =>
      if number % 2 = 0 ∧ number ≠ 0 then
        let (count, odd) := halvings bound (number / 2)
        (count + 1, odd)
      else (0, number)

def meetsMinusOne (modulus : Nat) : Nat → Nat → Bool
  | 0, _ => false
  | count + 1, number =>
      number = modulus - 1 || meetsMinusOne modulus count (number * number % modulus)

def witnesses : List Nat :=
  [2, 3, 5, 7, 11, 13, 17, 19, 23, 29, 31, 37]

/-- Whether a number is a prime.  There is no composite one below 10 to the 24th power that none of
the witnesses tells apart. -/
def isPrime (number : Nat) : Bool :=
  if number < 2 then false
  else if witnesses.contains number then true
  else if witnesses.any (number % · = 0) then false
  else
    let digits := Nat.log2 number + 1
    let (count, odd) := halvings digits (number - 1)
    witnesses.all fun witness =>
      let power := powMod number digits witness odd
      power = 1 || meetsMinusOne number count power

/-- Two runners on a sequence of remainders, one twice as fast: where they meet modulo a divisor,
that divisor shows. -/
def race (number shift : Nat) : Nat → Nat → Nat → Option Nat
  | 0, _, _ => none
  | bound + 1, slow, fast =>
      let next := fun value => (value * value + shift) % number
      let slow := next slow
      let fast := next (next fast)
      let divisor := Nat.gcd (max slow fast - min slow fast) number
      if divisor = 1 then race number shift bound slow fast
      else if divisor = number then none
      else some divisor

def raceLength : Nat := 1000000

def divisor (number : Nat) : Nat → Nat → Nat
  | 0, _ => number
  | bound + 1, shift =>
      match race number shift raceLength 2 2 with
      | some found => found
      | none => divisor number bound (shift + 1)

def takeOut (divisor : Nat) : Nat → Nat → List Nat × Nat
  | 0, number => ([], number)
  | bound + 1, number =>
      if number % divisor = 0 ∧ 0 < number then
        let (found, rest) := takeOut divisor bound (number / divisor)
        (divisor :: found, rest)
      else ([], number)

def largeFactors : Nat → Nat → List Nat
  | 0, number => [number]
  | bound + 1, number =>
      if number < 2 then []
      else if isPrime number then [number]
      else
        let found := divisor number 100 1
        if found = number then [number]
        else largeFactors bound found ++ largeFactors bound (number / found)

def of (number : Nat) : List Nat :=
  if number < 2 then []
  else
    let digits := Nat.log2 number + 1
    let (small, rest) := (2 :: (List.range 500).map (2 * · + 3)).foldl
      (fun (found, rest) divisor =>
        if divisor ≤ rest then
          let (more, rest) := takeOut divisor digits rest
          (found ++ more, rest)
        else (found, rest)) ([], number)
    small ++ (largeFactors digits rest).mergeSort

end Rpn.Text.Factors
