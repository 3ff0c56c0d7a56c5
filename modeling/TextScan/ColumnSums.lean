import TextScan.Delimiter
import TextScan.Floating.Shortest
import TextScan.Literal.Decimal
import TextScan.Literal.Integer
import TextScan.Log
import TextScan.Quoted
import TextScan.Stream.Log
import TextScan.Stream.Setup
import TextScan.Text

/-! Sums of the columns of numbers in a stream of lines. Fields stand between runs of
whitespace. A field that is no number keeps its column but adds nothing; a line that is not
UTF-8 is left out. -/
namespace TextScan.ColumnSums
open Floating (Number)
open Literal (FloatType)

/-- What a run reports while it works. Lines count from one, columns from zero. -/
inductive Report where
  | stream (record : Log.Record)
  | notUtf8 (line : Nat) (fault : Utf8.Fault)
  | notANumber (line column : Nat) (field : Bytes)
  | consumed (lines columns : Nat)
deriving DecidableEq

/-- Running totals by column, lines so far, and the reports so far in reverse. -/
structure Progress where
  sums : List Number
  lines : Nat
  reports : List Report

namespace Progress

def empty : Progress :=
  ⟨[], 0, [.stream Stream.startRecord]⟩

/-- Adds a value to its column. Columns seen for the first time start at zero. -/
def addAt (sums : List Number) (column : Nat) (value : Number) : List Number :=
  let padded := sums ++ List.replicate (column + 1 - sums.length) FloatType.double.zero
  padded.modify column (Floating.Format.double.add · value)

def addField (progress : Progress) (column : Nat) (field : Bytes) : Progress :=
  match FloatType.double.read? field with
  | some value => { progress with sums := addAt progress.sums column value }
  | none => { progress with reports := .notANumber progress.lines column field :: progress.reports }

def addFields (progress : Progress) (column : Nat) : List Bytes → Progress
  | [] => progress
  | field :: rest => addFields (progress.addField column field) (column + 1) rest

end Progress

/-- The fields of a line: the pieces between whitespace that are not empty. -/
def fields (line : Bytes) : List Bytes :=
  (Text.split (Delimiter.runOf .whitespace).finder line).filter (· ≠ [])

namespace Progress

def addLine (progress : Progress) (line : Bytes) : Progress :=
  let progress := { progress with lines := progress.lines + 1 }
  match Utf8.fault? line with
  | some fault => { progress with reports := .notUtf8 progress.lines fault :: progress.reports }
  | none => progress.addFields 0 (fields line)

def addStep (progress : Progress) (step : Stream.Step) : Progress :=
  let noted := step.notes.filterMap Stream.Note.record?
  let reports := noted.reverse.map Report.stream ++ progress.reports
  { progress with reports := reports }.addLine step.token.preceding

end Progress

structure Summary where
  totals : List Number
  reports : List Report

def run (buffer : Stream.Buffer) : Summary :=
  let done := (Stream.Tokens.start buffer).foldl Delimiter.lineBreak.finder Progress.addStep .empty
  ⟨done.sums, (.consumed done.lines done.sums.length :: done.reports).reverse⟩

def Summary.render (summary : Summary) : String :=
  "\t".intercalate (summary.totals.map Floating.Format.double.render) ++ "\n"

def Report.record : Report → Log.Record
  | .stream record => record
  | .notUtf8 line fault => ⟨.warn, "column_sums", "skipping line that is not UTF-8",
      [("line", toString line), ("err", fault.message)]⟩
  | .notANumber line column field =>
    let text := (String.fromUTF8? ⟨field.toArray⟩).getD ""
    ⟨.warn, "column_sums", "not a number", [("line", toString line),
      ("column", toString column), ("field", Quoted.quote text.toList)]⟩
  | .consumed lines columns => ⟨.debug, "column_sums", "input consumed",
      [("lines", toString lines), ("columns", toString columns)]⟩

/-- What a run prints and the records it leaves. -/
structure Outcome where
  output : String
  records : List Log.Record
deriving DecidableEq

def capacity? (arguments : List String) : Option Nat :=
  match arguments with
  | [] => some Stream.Buffer.defaultFloor
  | argument :: _ => (Literal.Integer.read? .size true argument.toUTF8.toList).map Int.toNat

/-- The program: arguments and standard input to an outcome, unless no buffer can start with the
capacity that was asked for. -/
def call (arguments : List String) (source : Stream.Source) : Except Stream.Misuse Outcome := do
  match capacity? arguments with
  | none => throw .invalidCapacity
  | some capacity =>
    let summary := run (← Stream.Setup.buffer ⟨some source, capacity⟩)
    return ⟨summary.render, summary.reports.map Report.record⟩

end TextScan.ColumnSums
