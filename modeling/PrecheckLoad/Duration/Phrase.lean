import PrecheckLoad.Duration.Basic

/-!
# Durations in words

The units that durations are counted in, each with all its names: days have 24 hours, months and
years their mean lengths. A phrase of counted units has the largest first and leaves zero counts
out: `1m 30s`, `2days 4h`. A brief duration is one decimal number of its largest fitting unit,
without trailing zeros: `1.5ms`, `40ns`, `3.000000001s`.
-/
namespace PrecheckLoad.Duration

def monthSeconds : Nat := 2630016

def yearSeconds : Nat := 31557600

inductive TimeUnit
  | nanosecond
  | microsecond
  | millisecond
  | second
  | minute
  | hour
  | day
  | week
  | month
  | year
deriving DecidableEq, Repr

def TimeUnit.names : TimeUnit → List String
  | .nanosecond => ["nanos", "nsec", "ns"]
  | .microsecond => ["usec", "us", "µs"]
  | .millisecond => ["millis", "msec", "ms"]
  | .second => ["seconds", "second", "secs", "sec", "s"]
  | .minute => ["minutes", "minute", "min", "mins", "m"]
  | .hour => ["hours", "hour", "hr", "hrs", "h"]
  | .day => ["days", "day", "d"]
  | .week => ["weeks", "week", "wk", "wks", "w"]
  | .month => ["months", "month", "M"]
  | .year => ["years", "year", "yr", "yrs", "y"]

def TimeUnit.all : List TimeUnit :=
  [.nanosecond, .microsecond, .millisecond, .second, .minute, .hour, .day, .week, .month, .year]

def TimeUnit.ofName? (s : String) : Option TimeUnit :=
  TimeUnit.all.find? fun u => u.names.contains s

/-- A unit is counted in nanoseconds up to the millisecond and in seconds from the second on. -/
inductive Grain
  | nanos (size : Nat)
  | seconds (size : Nat)

def TimeUnit.grain : TimeUnit → Grain
  | .nanosecond => .nanos 1
  | .microsecond => .nanos 1000
  | .millisecond => .nanos 1000000
  | .second => .seconds 1
  | .minute => .seconds 60
  | .hour => .seconds 3600
  | .day => .seconds 86400
  | .week => .seconds 604800
  | .month => .seconds monthSeconds
  | .year => .seconds yearSeconds

/-- What one unit of a fraction is divided into: nanoseconds up to the minute, seconds beyond, and
nothing for the nanosecond itself. -/
def TimeUnit.fractionGrain? : TimeUnit → Option Grain
  | .nanosecond => none
  | .microsecond => some (.nanos 1000)
  | .millisecond => some (.nanos 1000000)
  | .second => some (.nanos 1000000000)
  | .minute => some (.nanos 60000000000)
  | .hour => some (.seconds 3600)
  | .day => some (.seconds 86400)
  | .week => some (.seconds 604800)
  | .month => some (.seconds monthSeconds)
  | .year => some (.seconds yearSeconds)

/-- A count with its unit; the long units take an `s` from two on. -/
def counted (n : Nat) (unit : String) (plural : Bool) : List String :=
  if n = 0 then [] else [toString n ++ unit ++ (if plural && n > 1 then "s" else "")]

def phraseParts (d : Duration) : List String :=
  let s := d.seconds
  let inYear := s % yearSeconds
  let inMonth := inYear % monthSeconds
  let inDay := inMonth % 86400
  let ns := d.subsecond
  counted (s / yearSeconds) "year" true ++ counted (inYear / monthSeconds) "month" true ++
  counted (inMonth / 86400) "day" true ++ counted (inDay / 3600) "h" false ++
  counted (inDay % 3600 / 60) "m" false ++ counted (inDay % 60) "s" false ++
  counted (ns / 1000000) "ms" false ++ counted (ns / 1000 % 1000) "us" false ++
  counted (ns % 1000) "ns" false

def phrase (d : Duration) : String :=
  if d.nanos = 0 then "0s" else Text.joinWith " " d.phraseParts

/-- Digits after the point, as many as the unit has, less the zeros at the end. -/
def placesOf (n width : Nat) : String :=
  let ds := Decimal.digitChars n
  let ds := List.replicate (width - ds.length) '0' ++ ds
  let ds := (ds.reverse.dropWhile (· == '0')).reverse
  if ds.isEmpty then "" else "." ++ String.ofList ds

def brief (d : Duration) : String :=
  let ns := d.subsecond
  if d.seconds > 0 then toString d.seconds ++ placesOf ns 9 ++ "s"
  else if ns ≥ 1000000 then toString (ns / 1000000) ++ placesOf (ns % 1000000) 6 ++ "ms"
  else if ns ≥ 1000 then toString (ns / 1000) ++ placesOf (ns % 1000) 3 ++ "µs"
  else toString ns ++ "ns"

end PrecheckLoad.Duration
