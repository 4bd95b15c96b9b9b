/-! The shortest decimal digits of a double: the first decimal grid, from the coarsest down, with a
point in the rounding interval gives the fewest significant digits (`Binary.shortest`), compared
exactly in natural numbers; `layout` writes them. -/

namespace PortableSearch.Decimal

/-- A finite double as a sign, a mantissa and a binary exponent: `x = ±m · 2^e`. -/
structure Binary where
  negative : Bool
  mantissa : Nat
  exponent : Int
  lowerClose : Bool
  deriving Repr

def Binary.ofFloat (x : Float) : Binary :=
  let bits := x.toBits
  let e := ((bits >>> 52) &&& 0x7FF).toNat
  let f := (bits &&& 0xFFFFFFFFFFFFF).toNat
  { negative := bits >>> 63 == 1,
    mantissa := if e = 0 then f else f + Nat.pow 2 52,
    exponent := if e = 0 then -1074 else (e : Int) - 1075,
    lowerClose := f = 0 && e > 1 }

def digitCount (n : Nat) : Nat := (Nat.toDigits 10 n).length

def compareScaled (j : Nat) (q : Int) (x : Nat) (u : Int) : Ordering :=
  compare (j * Nat.pow 10 q.toNat * Nat.pow 2 (-u).toNat) (x * Nat.pow 2 u.toNat * Nat.pow 10 (-q).toNat)

def topGrid (h : Nat) (u : Int) : Int :=
  let num := h * Nat.pow 2 u.toNat
  let den := Nat.pow 2 (-u).toNat
  if den ≤ num then (digitCount (num / den) : Int) - 1
  else -((digitCount ((den - 1) / num)) : Int)

/-- Of the value's two neighbours on the grid `10^q`, the point in the interval `(lo, hi)` (ends
included when `closed`) nearest the value `v`, all in units of `2^u`. -/
def gridHit (v lo hi : Nat) (u : Int) (closed : Bool) (q : Int) : Option Nat :=
  let j := (v * Nat.pow 2 u.toNat * Nat.pow 10 (-q).toNat) / (Nat.pow 10 q.toNat * Nat.pow 2 (-u).toNat)
  let inside (k : Nat) : Bool :=
    (match compareScaled k q lo u with
      | .gt => true
      | .eq => closed
      | .lt => false) &&
    (match compareScaled k q hi u with
      | .lt => true
      | .eq => closed
      | .gt => false)
  match inside j, inside (j + 1) with
  | true, true =>
    let scale := Nat.pow 10 q.toNat * Nat.pow 2 (-u).toNat
    let target := v * Nat.pow 2 u.toNat * Nat.pow 10 (-q).toNat
    let below := target - j * scale
    let above := (j + 1) * scale - target
    if below < above then some j
    else if above < below then some (j + 1)
    else if j % 2 = 0 then some j else some (j + 1)
  | true, false => some j
  | false, true => some (j + 1)
  | false, false => none

def searchGrids (v lo hi : Nat) (u : Int) (closed : Bool) : Nat → Int → Nat × Int
  | 0, q => (v, q)
  | fuel + 1, q =>
    match gridHit v lo hi u closed q with
    | some j => (j, q)
    | none => searchGrids v lo hi u closed fuel (q - 1)

def stripZeros : Nat → Nat → Int → Nat × Int
  | 0, j, q => (j, q)
  | fuel + 1, j, q =>
    if j ≠ 0 ∧ j % 10 = 0 then stripZeros fuel (j / 10) (q + 1) else (j, q)

/-- The fewest significant digits `j` and the exponent `q` with `j · 10^q` in the rounding
interval of a nonzero finite double. -/
def Binary.shortest (b : Binary) : Nat × Int :=
  let u := b.exponent - 2
  let v := 4 * b.mantissa
  let lo := if b.lowerClose then v - 1 else v - 2
  let hi := v + 2
  let (j, q) := searchGrids v lo hi u (b.mantissa % 2 = 0) 40 (topGrid hi u)
  stripZeros 20 j q

/-- Digits `ds` (no leading or trailing zero) of a value `0.ds × 10^point` written positionally
when `-4 < point ≤ 16`, otherwise in scientific form. -/
def layout (ds : String) (point : Int) : String :=
  let n := ds.length
  if -4 < point ∧ point ≤ 16 then
    if point ≤ 0 then "0." ++ String.ofList (List.replicate point.natAbs '0') ++ ds
    else if point.toNat < n then
      String.ofList (ds.toList.take point.toNat) ++ "." ++ String.ofList (ds.toList.drop point.toNat)
    else ds ++ String.ofList (List.replicate (point.toNat - n) '0') ++ ".0"
  else
    let k := point - 1
    let mant := if n = 1 then ds else
      String.ofList (ds.toList.take 1) ++ "." ++ String.ofList (ds.toList.drop 1)
    let exp := String.ofList (Nat.toDigits 10 k.natAbs)
    mant ++ "e" ++ (if k < 0 then "-" else "+") ++ (if exp.length < 2 then "0" ++ exp else exp)

/-- The shortest text that reads back as the double `x`: `nan`, `inf` and `-inf` for the
non-finite values, `0.0` and `-0.0` for the zeros. -/
def floatText (x : Float) : String :=
  if x.isNaN then "nan"
  else if x.isInf then (if x < 0 then "-inf" else "inf")
  else
    let b := Binary.ofFloat x
    let sign := if b.negative then "-" else ""
    if b.mantissa = 0 then sign ++ "0.0"
    else
      let (j, q) := b.shortest
      let ds := String.ofList (Nat.toDigits 10 j)
      sign ++ layout ds (q + ds.length)

/-! ## The double nearest a decimal -/

def digitsValue (ds : List Char) : Nat :=
  ds.foldl (fun n c => n * 10 + (c.toNat - 48)) 0

def significantDigits (ds : List Char) : Nat :=
  (ds.dropWhile (· == '0')).length

/-- The double nearest to the digits `ds` read as a natural number and multiplied by `10^k`. -/
def nearest (ds : List Char) (k : Int) : Float :=
  let m := digitsValue ds
  let size := significantDigits ds
  if m = 0 then 0.0
  else if k + size > 400 then 1.0 / 0.0
  else if k + size < -400 then 0.0
  else if k ≥ 0 then Float.ofScientific m false k.toNat
  else Float.ofScientific m true k.natAbs

example : digitsValue "0042".toList = 42 := by decide
example : significantDigits "0042".toList = 2 := by decide

end PortableSearch.Decimal

namespace PortableSearch

def Float.toIntExact? (x : Float) : Option Int :=
  if x.isNaN || x.isInf then none
  else
    let b := Decimal.Binary.ofFloat x
    let magnitude : Option Nat :=
      if b.exponent ≥ 0 then some (b.mantissa * Nat.pow 2 b.exponent.toNat)
      else
        let d := Nat.pow 2 b.exponent.natAbs
        if b.mantissa % d = 0 then some (b.mantissa / d) else none
    magnitude.map (fun n => if b.negative then -(n : Int) else n)

end PortableSearch
