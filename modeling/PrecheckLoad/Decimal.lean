import PrecheckLoad.Text.Basic

/-!
# Decimal numbers

A finite float is `± m · 2^q`. A float is taken apart into that form, and the float nearest to a
fraction is found, both in exact integer arithmetic, so that no statement about a number needs a law
of floating point arithmetic.

The shortest digits are the fewest decimal digits that read back as the same float, and among those
the nearest to it. The reals that read back as `m · 2^q` form an interval, whose ends belong to it
when `m` is even. On the grid of `n` significant digits only the two neighbours of the value can be
the nearest points inside, so each grid needs two tests. Main statement kept by construction: the
result is the first grid, from coarse to fine, with a point in the interval.

There are three ways to write a float. *Plain* never uses an exponent and writes whole numbers
without a point. *Scientific at the ends* keeps a point in every number and switches to an exponent
below `10^-5` and from `10^16` on; it has no form for what is not finite. *Fixed* writes a given
number of places, a half going to the even neighbour of the exact binary value.

The text of a number that is read has an optional sign, digits with at most one point among or
around them, and an optional exponent; or it is a word for an infinity or for no number at all, in
any case. Its value is the nearest float. Blanks and separators are no part of a number.
-/
namespace PrecheckLoad.Decimal

open Text

inductive Binary
  | nan
  | infinite (negative : Bool)
  | finite (negative : Bool) (m : Nat) (q : Int)
deriving DecidableEq, Repr

def Binary.ofBits (b : UInt64) : Binary :=
  let n : Nat := b.toNat
  let negative := n / Nat.pow 2 63 == 1
  let e : Nat := n / Nat.pow 2 52 % 2048
  let f := n % Nat.pow 2 52
  if e = 2047 then (if f = 0 then .infinite negative else .nan)
  else if e = 0 then .finite negative f (-1074)
  else .finite negative (Nat.pow 2 52 + f) ((e : Int) - 1075)

def Binary.of (x : Float) : Binary :=
  .ofBits x.toBits

/-- Rounds `num / den` to a natural number; a half goes to the even neighbour. -/
def roundEven (num den : Nat) : Nat :=
  let d := num / den
  let r := num % den
  if 2 * r < den then d
  else if 2 * r > den then d + 1
  else if d % 2 = 0 then d else d + 1

/-- `num / den · 2^q` as a fraction of natural numbers. -/
def scaleTwo (num den : Nat) (q : Int) : Nat × Nat :=
  match q with
  | .ofNat k => (num * Nat.pow 2 k, den)
  | .negSucc k => (num, den * Nat.pow 2 (k + 1))

/-- The greatest `k` with `2^k ≤ num / den`, for positive `num` and `den`. -/
def floorLog2 (num den : Nat) : Int :=
  let k : Int := (Nat.log2 num : Int) - (Nat.log2 den : Int)
  let (n, d) := scaleTwo num den (-k)
  if n < d then k - 1 else k

/-- The bits of the float nearest to `num / den`, ties to even, beyond the range the infinity. -/
def nearestBits (num den : Nat) : Nat :=
  if num = 0 ∨ den = 0 then 0
  else
    let q : Int := max (-1074) (floorLog2 num den - 52)
    let (n, d) := scaleTwo num den (-q)
    let m := roundEven n d
    min ((q + 1074).toNat * Nat.pow 2 52 + m) (2047 * Nat.pow 2 52)

def withSign (negative : Bool) (bits : Nat) : Float :=
  Float.ofBits (UInt64.ofNat (if negative then bits + Nat.pow 2 63 else bits))

/-- The float nearest to `± num / den`. -/
def nearest (negative : Bool) (num den : Nat) : Float :=
  withSign negative (nearestBits num den)

/-- The float nearest to `± m · 10^e`. Exponents past the range of floats are cut, which changes
nothing but the size of the numbers at work. -/
def nearestTen (negative : Bool) (m : Nat) (e : Int) : Float :=
  if m = 0 then withSign negative 0
  else if e > 400 then withSign negative (2047 * Nat.pow 2 52)
  else
    let digits : Int := (Nat.toDigits 10 m).length
    if digits + e < -400 then withSign negative 0
    else match e with
      | .ofNat k => nearest negative (m * Nat.pow 10 k) 1
      | .negSucc k => nearest negative m (Nat.pow 10 (k + 1))

/-- How two equally near candidates are settled. -/
inductive Tie
  | up
  | toEven
deriving DecidableEq, Repr

/-- `digits · 10^exponent`. -/
structure Digits where
  digits : Nat
  exponent : Int
deriving DecidableEq, Repr

/-- The interval of reals that read back as one float, over a common denominator. -/
structure Interval where
  lo : Nat
  mid : Nat
  hi : Nat
  den : Nat
  closed : Bool

/-- Below the smallest significand of a binade the neighbour is half as far away. -/
def Interval.of (m : Nat) (q : Int) : Interval :=
  let lo := if m = Nat.pow 2 52 ∧ q > -1074 then 4 * m - 1 else 4 * m - 2
  let (num, den) := scaleTwo 1 1 (q - 2)
  { lo := lo * num, mid := 4 * m * num, hi := (4 * m + 2) * num, den := den, closed := m % 2 = 0 }

def Interval.holds (i : Interval) (n d : Nat) : Bool :=
  let x := n * i.den
  if i.closed then i.lo * d ≤ x && x ≤ i.hi * d else i.lo * d < x && x < i.hi * d

/-- The greatest `k` with `10^k ≤ num / den`, counting down from `k`. -/
def floorLog10 (num den : Nat) : Nat → Int → Int
  | 0, k => k
  | fuel + 1, k =>
    let fits := match k with
      | .ofNat j => decide (den * Nat.pow 10 j ≤ num)
      | .negSucc j => decide (den ≤ num * Nat.pow 10 (j + 1))
    if fits then k else floorLog10 num den fuel (k - 1)

/-- `10^e` as a fraction. -/
def tenPower (e : Int) : Nat × Nat :=
  match e with
  | .ofNat k => (Nat.pow 10 k, 1)
  | .negSucc k => (1, Nat.pow 10 (k + 1))

/-- The nearest point of the grid `10^e` inside the interval. -/
def gridPoint (tie : Tie) (i : Interval) (e : Int) : Option Digits :=
  let (p, d) := tenPower e
  let below := i.mid * d / (i.den * p)
  let above := below + 1
  let lowHit := i.holds (below * p) d
  let highHit := i.holds (above * p) d
  match lowHit, highHit with
  | false, false => none
  | true, false => some ⟨below, e⟩
  | false, true => some ⟨above, e⟩
  | true, true =>
    let twice := 2 * i.mid * d
    let middle := (below + above) * p * i.den
    if twice < middle then some ⟨below, e⟩
    else if twice > middle then some ⟨above, e⟩
    else match tie with
      | .up => some ⟨above, e⟩
      | .toEven => some ⟨if below % 2 = 0 then below else above, e⟩

def searchGrids (tie : Tie) (i : Interval) (k : Int) : Nat → Nat → Digits
  | 0, _ => ⟨i.mid / i.den, 0⟩
  | fuel + 1, n =>
    match gridPoint tie i (k - n) with
    | some d => d
    | none => searchGrids tie i k fuel (n + 1)

/-- The shortest digits of `m · 2^q`, for `0 < m`. The first grid holds the next power of ten;
seventeen digits always suffice. -/
def shortest (tie : Tie) (m : Nat) (q : Int) : Digits :=
  let i := Interval.of m q
  let start : Int := (floorLog2 i.mid i.den) * 30103 / 100000 + 1
  let k := floorLog10 i.mid i.den 4 start
  searchGrids tie i (k + 1) 18 0

def digitChars (n : Nat) : List Char :=
  Nat.toDigits 10 n

/-- Digits with the point after the first `point` of them, filled up with zeros on both sides. -/
def placePoint (ds : List Char) (point : Int) : List Char × List Char :=
  if point ≤ 0 then (['0'], List.replicate (-point).toNat '0' ++ ds)
  else
    let p := point.toNat
    (ds.take p ++ List.replicate (p - ds.length) '0', ds.drop p)

def signChars (negative : Bool) : List Char :=
  if negative then ['-'] else []

def plainChars (x : Float) : List Char :=
  match Binary.of x with
  | .nan => ['N', 'a', 'N']
  | .infinite negative => signChars negative ++ ['i', 'n', 'f']
  | .finite negative 0 _ => signChars negative ++ ['0']
  | .finite negative m q =>
    let d := shortest .up m q
    let ds := digitChars d.digits
    let (whole, places) := placePoint ds (ds.length + d.exponent)
    signChars negative ++ whole ++ (if places.isEmpty then [] else '.' :: places)

def plain (x : Float) : String :=
  String.ofList (plainChars x)

/-- The exponent of a number in scientific form, always signed when positive. -/
def exponentChars (e : Int) : List Char :=
  'e' :: (if e < 0 then '-' else '+') :: digitChars e.natAbs

def scientificChars? (x : Float) : Option (List Char) :=
  match Binary.of x with
  | .nan => none
  | .infinite _ => none
  | .finite negative 0 _ => some (signChars negative ++ ['0', '.', '0'])
  | .finite negative m q =>
    let d := shortest .toEven m q
    let ds := digitChars d.digits
    let point : Int := ds.length + d.exponent
    if -4 ≤ point ∧ point ≤ 16 then
      let (whole, places) := placePoint ds point
      some (signChars negative ++ whole ++ '.' :: (if places.isEmpty then ['0'] else places))
    else
      let tail := ds.drop 1
      some (signChars negative ++ ds.take 1 ++ (if tail.isEmpty then [] else '.' :: tail) ++
        exponentChars (point - 1))

/-- The scientific form where there is one. -/
def scientific (x : Float) : String :=
  match scientificChars? x with
  | some cs => String.ofList cs
  | none => "null"

/-- `n / 10^places`, with exactly `places` digits after the point. -/
def fixedChars (n places : Nat) : List Char :=
  let ds := digitChars n
  let ds := List.replicate (places + 1 - ds.length) '0' ++ ds
  let whole := ds.length - places
  ds.take whole ++ (if places = 0 then [] else '.' :: ds.drop whole)

def fixed (places : Nat) (x : Float) : String :=
  String.ofList <| match Binary.of x with
  | .nan => ['N', 'a', 'N']
  | .infinite negative => signChars negative ++ ['i', 'n', 'f']
  | .finite negative m q =>
    let (num, den) := scaleTwo (m * Nat.pow 10 places) 1 q
    signChars negative ++ fixedChars (roundEven num den) places

/-- The longest run of digits in front, and what follows it. -/
def spanDigits (s : List Char) : List Char × List Char :=
  (s.takeWhile isDigit, s.dropWhile isDigit)

def takeSign : List Char → Bool × List Char
  | '-' :: r => (true, r)
  | '+' :: r => (false, r)
  | r => (false, r)

/-- An exponent, complete to the end of the text. -/
def readExponent? : List Char → Option Int
  | [] => some 0
  | c :: r =>
    if c = 'e' ∨ c = 'E' then
      let (negative, ds) := takeSign r
      if ds.isEmpty || !ds.all isDigit then none
      else
        let n : Int := natOfDigits ds
        some (if negative then -n else n)
    else none

def readUnsigned? (negative : Bool) (s : List Char) : Option Float :=
  let (whole, r) := spanDigits s
  let (places, r) := match r with
    | '.' :: r => spanDigits r
    | r => ([], r)
  if whole.isEmpty && places.isEmpty then none
  else (readExponent? r).map fun e =>
    nearestTen negative (natOfDigits (whole ++ places)) (e - places.length)

/-- The float that a text stands for. -/
def read? (s : String) : Option Float :=
  let (negative, r) := takeSign s.toList
  let word := String.ofList (r.map lowerChar)
  if word = "inf" ∨ word = "infinity" then some (withSign negative (2047 * Nat.pow 2 52))
  else if word = "nan" then some (withSign negative (2047 * Nat.pow 2 52 + Nat.pow 2 51))
  else readUnsigned? negative r

/-- The natural number below a limit that a text of digits stands for, with an optional plus. -/
def readNat? (limit : Nat) (s : String) : Option Nat :=
  let r := match s.toList with
    | '+' :: r => r
    | r => r
  if r.isEmpty || !r.all isDigit then none
  else
    let n := natOfDigits r
    if n < limit then some n else none

end PrecheckLoad.Decimal
