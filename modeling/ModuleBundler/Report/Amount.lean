import ModuleBundler.Number.Fraction

/-!
Sizes and durations as people read them. They are rounded twice, first to the precision of a double
and then to the places that are printed.
-/

namespace ModuleBundler.Report

/-- A number of bytes: from 1024 on in kilobytes, and from 1024 of them on in megabytes, both with
two places. -/
def formatSize (bytes : Nat) : String :=
  let count := (Fraction.ofNat bytes).toDouble
  if 1048576 ≤ bytes then { count with denominator := count.denominator * 1048576 }.fixed 2 ++ " MB"
  else if 1024 ≤ bytes then { count with denominator := count.denominator * 1024 }.fixed 2 ++ " KB"
  else toString bytes ++ " B"

structure Duration where
  seconds : Nat
  nanoseconds : Nat
  deriving DecidableEq, Repr, Inhabited

namespace Duration

def inSeconds (duration : Duration) : Fraction :=
  ((Fraction.ofNat duration.seconds).toDouble.add
    (Fraction.toDouble ⟨duration.nanoseconds, 1000000000⟩)).toDouble

def milliseconds (duration : Duration) : Nat :=
  duration.seconds * 1000 + duration.nanoseconds / 1000000

def format (duration : Duration) : String :=
  let seconds := duration.inSeconds
  if seconds.denominator ≤ seconds.numerator then seconds.fixed 2 ++ "s"
  else (seconds.scale 1000).toDouble.fixed 0 ++ "ms"

end Duration

end ModuleBundler.Report
