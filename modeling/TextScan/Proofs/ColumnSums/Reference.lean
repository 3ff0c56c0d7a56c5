import TextScan.ColumnSums

/-! What column sums are, said of the whole input at once: its lines, their fields, and the
values in each column. Nothing here knows of buffers, tokens or running totals. -/
namespace TextScan.ColumnSums
open Floating (Number)
open Literal (FloatType)

/-- A report about the input, not about how it was read or what it came to. -/
def Report.isDiagnostic : Report → Bool
  | .notUtf8 .. => true
  | .notANumber .. => true
  | .stream _ => false
  | .consumed .. => false

/-- A warning of the program itself, not of the stream that it reads from. -/
def isWarning (record : Log.Record) : Bool :=
  record.level = .warn && record.target = "column_sums"

namespace Reference

/-- The lines of an input: it is cut at a carriage return with its line feed and at either of
the two alone. -/
def lines : Bytes → List Bytes
  | [] => [[]]
  | 0x0d :: 0x0a :: rest => [] :: lines rest
  | byte :: rest =>
    if byte = 0x0d ∨ byte = 0x0a then [] :: lines rest else (lines rest).modifyHead (byte :: ·)

def isBlank (byte : UInt8) : Bool :=
  [0x20, 0x09, 0x0a, 0x0d, 0x0b, 0x0c].contains byte

theorem length_dropWhile_le (test : UInt8 → Bool) (bytes : Bytes) :
    (bytes.dropWhile test).length ≤ bytes.length :=
  (List.dropWhile_suffix test).length_le

/-- The maximal runs of bytes that are not blank. -/
def words (line : Bytes) : List Bytes :=
  match _ : line.dropWhile isBlank with
  | [] => []
  | first :: rest =>
    (first :: rest.takeWhile (!isBlank ·)) :: words (rest.dropWhile (!isBlank ·))
termination_by line.length
decreasing_by
  rename_i same
  have shorter := length_dropWhile_le isBlank line
  have ends := length_dropWhile_le (!isBlank ·) rest
  rw [same, List.length_cons] at shorter
  omega

def fieldValue? (field : Bytes) (column : Nat) : Option (Nat × Number) :=
  (FloatType.double.read? field).map (column, ·)

/-- The values of a line with their columns. A line that is not text has none, and a field that
is no number keeps its column. -/
def lineValues (line : Bytes) : List (Nat × Number) :=
  if Utf8.Valid line then
    (words line).zipIdx.filterMap fun (field, column) => fieldValue? field column
  else []

def values (input : Bytes) : List (Nat × Number) :=
  (lines input).flatMap lineValues

/-- The sum of a column, taken from left to right and from zero. -/
def total (values : List (Nat × Number)) (column : Nat) : Number :=
  ((values.filter (·.1 = column)).map Prod.snd).foldl Floating.Format.double.add
    FloatType.double.zero

/-- One more than the largest column that has a value. -/
def width (values : List (Nat × Number)) : Nat :=
  (values.map (·.1 + 1)).foldl max 0

def totals (input : Bytes) : List Number :=
  (List.range (width (values input))).map (total (values input))

def fieldReport? (number : Nat) (field : Bytes) (column : Nat) : Option Report :=
  match FloatType.double.read? field with
  | some _ => none
  | none => some (.notANumber number column field)

/-- What there is to report about a line: that it is not text, or the fields that are no
numbers. -/
def lineReports (line : Bytes) (number : Nat) : List Report :=
  match Utf8.fault? line with
  | some fault => [.notUtf8 number fault]
  | none =>
    (words line).zipIdx.filterMap fun (field, column) => fieldReport? number field column

def reports (input : Bytes) : List Report :=
  ((lines input).zipIdx 1).flatMap fun (line, number) => lineReports line number

end Reference
end TextScan.ColumnSums
