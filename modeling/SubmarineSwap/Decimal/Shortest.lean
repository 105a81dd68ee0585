
namespace SubmarineSwap.Decimal

/-- Which of two candidates equally near the value is taken. -/
inductive Tie where
  | even
  | up
  deriving DecidableEq, Repr

/-- A finite double as `mantissa * 2 ^ exponent`, sign dropped. -/
structure Binary where
  mantissa : Nat
  exponent : Int
  deriving DecidableEq, Repr

def Binary.ofFloat (f : Float) : Binary :=
  let bits := f.toBits.toNat
  let fraction := bits % Nat.pow 2 52
  let biased : Nat := bits / Nat.pow 2 52 % 2048
  if biased = 0 then ⟨fraction, -1074⟩ else ⟨fraction + Nat.pow 2 52, Int.ofNat biased - 1075⟩

def leadingExponent (n : Nat) : Nat := (Nat.toDigits 10 n).length - 1

def stripZeros (n : Nat) (e : Int) : Nat × Int :=
  if h : n ≠ 0 ∧ n % 10 = 0 then stripZeros (n / 10) (e + 1) else (n, e)
termination_by n
decreasing_by exact Nat.div_lt_self (Nat.pos_of_ne_zero h.1) (by decide)

/-- Digits `d` and exponent `k` with `d * 10 ^ k` the shortest decimal that reads back as the
positive value `b`, without trailing zeros; an exact tie is broken by `tie`. -/
def shortest (tie : Tie) (b : Binary) : Nat × Int :=
  let m := b.mantissa
  let q := b.exponent
  -- quantities are counted in units of 2 ^ (q - 2) = scale / unit
  let scale := if q ≥ 2 then Nat.pow 2 (q - 2).toNat else 1
  let unit := if q ≥ 2 then 1 else Nat.pow 2 (2 - q).toNat
  let value := 4 * m
  let upper := 4 * m + 2
  let lower := if m = Nat.pow 2 52 ∧ q > -1074 then 4 * m - 1 else 4 * m - 2
  let closed := m % 2 == 0
  let magnitude : Int := (leadingExponent (value * scale * Nat.pow 10 340 / unit) : Int) - 340
  -- compares `c * 10 ^ s` with `a` units
  let cmp (c : Nat) (s : Int) (a : Nat) : Ordering :=
    if s ≥ 0 then compare (c * Nat.pow 10 s.toNat * unit) (a * scale)
    else compare (c * unit) (a * scale * Nat.pow 10 (-s).toNat)
  let inside (c : Nat) (s : Int) : Bool :=
    (match cmp c s lower with | .gt => true | .eq => closed | .lt => false) &&
    (match cmp c s upper with | .lt => true | .eq => closed | .gt => false)
  let onGrid (p : Nat) : Option (Nat × Int) :=
    let s := magnitude - p + 1
    let below :=
      if s ≥ 0 then value * scale / (unit * Nat.pow 10 s.toNat)
      else value * scale * Nat.pow 10 (-s).toNat / unit
    let above := below + 1
    match inside below s, inside above s with
    | true, true =>
      match cmp (below + above) s (2 * value) with
      | .gt => some (below, s)
      | .lt => some (above, s)
      | .eq => some (if tie == .even && below % 2 == 0 then below else above, s)
    | true, false => some (below, s)
    | false, true => some (above, s)
    | false, false => none
  match (List.range 17).findSome? fun i => onGrid (i + 1) with
  | some (d, s) => stripZeros d s
  | none => stripZeros m 0

end SubmarineSwap.Decimal
