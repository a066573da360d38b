import XQueryScope.Command.Stats

/-!
# Showing measurements

Durations are shown in the largest unit that leaves a whole part, sizes in powers of 1024.  A
`MeasureFormat` says how a report shows the two, so that a report can also be laid out without them.
-/

namespace XQueryScope

/-! ## 1. Decimal fractions -/

/-- A text filled up with blanks on the right. -/
def padRight (width : Nat) (s : String) : String :=
  s ++ String.ofList (List.replicate (width - s.length) ' ')

/-- A text filled up with blanks on the left. -/
def padLeft (width : Nat) (s : String) : String :=
  String.ofList (List.replicate (width - s.length) ' ') ++ s

/-- A number of digits, filled up with zeros on the left. -/
def zeroPadded (width n : Nat) : String :=
  let ds := Text.decimal n
  String.ofList (List.replicate (width - ds.length) '0' ++ ds)

/-- The fraction `n / d` to a number of decimal places, half up. -/
def fixedPoint (places n d : Nat) : String :=
  let scaled := (2 * n * Text.tenTo places + d) / (2 * d)
  Text.decimalText (scaled / Text.tenTo places) ++
    if places = 0 then "" else "." ++ zeroPadded places (scaled % Text.tenTo places)

/-- The number with the last `places` digits of `n` behind the point, as many as it needs. -/
def exactPoint (places n : Nat) : String :=
  let fraction := (zeroPadded places (n % Text.tenTo places)).toList
  let needed := (fraction.reverse.dropWhile (· == '0')).reverse
  Text.decimalText (n / Text.tenTo places) ++
    if needed.isEmpty then "" else "." ++ String.ofList needed

/-! ## 2. Durations and sizes -/

/-- The unit of a duration: its name and the power of ten in nanoseconds. -/
def durationUnit (nanoseconds : Nat) : String × Nat :=
  if Text.tenTo 9 ≤ nanoseconds then ("s", 9)
  else if Text.tenTo 6 ≤ nanoseconds then ("ms", 6)
  else if Text.tenTo 3 ≤ nanoseconds then ("µs", 3)
  else ("ns", 0)

/-- A duration to two decimals. -/
def shortDuration (nanoseconds : Nat) : String :=
  let (unit, places) := durationUnit nanoseconds
  fixedPoint 2 nanoseconds (Text.tenTo places) ++ unit

/-- A duration with all its decimals. -/
def fullDuration (nanoseconds : Nat) : String :=
  let (unit, places) := durationUnit nanoseconds
  exactPoint places nanoseconds ++ unit

/-- A kilobyte in bytes. -/
def kilobyte : Nat := 1024

/-- A megabyte in bytes. -/
def megabyte : Nat := 1024 * kilobyte

/-- A gigabyte in bytes. -/
def gigabyte : Nat := 1024 * megabyte

/-- A number of bytes. -/
def byteSize (bytes : Nat) : String :=
  if gigabyte ≤ bytes then fixedPoint 1 bytes gigabyte ++ " GB"
  else if megabyte ≤ bytes then fixedPoint 1 bytes megabyte ++ " MB"
  else if kilobyte ≤ bytes then fixedPoint 1 bytes kilobyte ++ " KB"
  else Text.decimalText bytes ++ " B"

/-! ## 3. Reports -/

/-- How measurements are shown in the two layouts of a report and in the log. -/
structure MeasureFormat where
  tableTime : Nat → String
  tableSize : Option Nat → String
  csvTime : Nat → String
  csvSize : Option Nat → String
  logTime : Nat → String

/-- Measurements as numbers with units. -/
def MeasureFormat.plain : MeasureFormat where
  tableTime := shortDuration
  tableSize := fun bytes => bytes.elim "N/A" byteSize
  csvTime := fun nanoseconds => fixedPoint 3 nanoseconds (Text.tenTo 6)
  csvSize := fun bytes => bytes.elim "" Text.decimalText
  logTime := fullDuration

/-- A text between double quotes for a comma-separated row. -/
def csvQuoted (s : String) : String :=
  "\"" ++ s.replace "\"" "\"\"" ++ "\""

/-- One phase as a comma-separated row. -/
def PhaseReport.csvRow (r : PhaseReport) (f : MeasureFormat) : String :=
  r.phase.text ++ "," ++ f.csvTime r.nanoseconds ++ "," ++ f.csvSize r.peakBytes ++ "," ++
    csvQuoted r.detail ++ "\n"

/-- One phase as a row of a table. -/
def PhaseReport.tableRow (r : PhaseReport) (f : MeasureFormat) : String :=
  "  " ++ padRight 12 r.phase.text ++ " " ++ padLeft 10 (f.tableTime r.nanoseconds) ++
    "   RSS: " ++ padRight 10 (f.tableSize r.peakBytes) ++ "  (" ++ r.detail ++ ")\n"

/-- A report as comma-separated rows. -/
def csvReport (rs : List PhaseReport) (f : MeasureFormat) : String :=
  "phase,duration_ms,peak_rss_bytes,detail\n" ++ String.join (rs.map (·.csvRow f))

/-- A report as a table, with the total time if there is more than one phase. -/
def tableReport (rs : List PhaseReport) (f : MeasureFormat) : String :=
  let whole :=
    if 1 < rs.length then
      "\n  " ++ padRight 12 "TOTAL" ++ " " ++
        padLeft 10 (f.tableTime (total (rs.map (·.nanoseconds)))) ++ "\n"
    else ""
  "=== xqstatic Analysis Stats ===\n\n" ++ String.join (rs.map (·.tableRow f)) ++ whole ++ "\n"

/-- The lines that a note is worth when timing is asked for. -/
def Note.timingLines (f : MeasureFormat) : Note → List String
  | .warning _ => []
  | .finished span nanoseconds =>
    ["[PERF] " ++ span ++ " completed in " ++ f.logTime nanoseconds]
  | .resolverUse calls hits =>
    ["[PERF] === Resolver Summary ===",
     "[PERF] Resolver calls: " ++ Text.decimalText calls ++ " (" ++ Text.decimalText hits ++
       " cache hits)"]

end XQueryScope
