import TextScan.Proofs.ColumnSums.Lines
import TextScan.Proofs.ColumnSums.Totals
import TextScan.Proofs.Stream.Chunking

/-! The program prints the totals of its input and reports what is wrong with it, whatever the
size of its buffer and whatever the pieces its input comes in. -/
namespace TextScan.ColumnSums
open Floating (Number)
open Literal (FloatType)
open Progress (addAt)

namespace Progress

theorem addFields_spec (progress : Progress) (column : Nat) (fields : List Bytes) :
    progress.addFields column fields =
      { progress with
        sums := ((fields.zipIdx column).filterMap fun (field, column) =>
          Reference.fieldValue? field column).foldl
            (fun sums entry => addAt sums entry.1 entry.2) progress.sums
        reports := ((fields.zipIdx column).filterMap fun (field, column) =>
          Reference.fieldReport? progress.lines field column).reverse ++ progress.reports } := by
  induction fields generalizing progress column with
  | nil => rfl
  | cons field fields ih =>
    rw [addFields, ih, addField, List.zipIdx_cons]
    cases value : FloatType.double.read? field with
    | some value => simp [Reference.fieldValue?, Reference.fieldReport?, value]
    | none => simp [Reference.fieldValue?, Reference.fieldReport?, value]

theorem addLine_spec (progress : Progress) (line : Bytes) :
    progress.addLine line =
      { sums := (Reference.lineValues line).foldl
          (fun sums entry => addAt sums entry.1 entry.2) progress.sums
        lines := progress.lines + 1
        reports :=
          (Reference.lineReports line (progress.lines + 1)).reverse ++ progress.reports } := by
  rw [addLine]
  dsimp only
  split <;> rename_i found
  · have invalid : ¬Utf8.Valid line := by simp [Utf8.Valid, found]
    simp [Reference.lineValues, Reference.lineReports, found, invalid]
  · have valid : Utf8.Valid line := found
    rw [addFields_spec, fields_eq_words valid]
    simp [Reference.lineValues, Reference.lineReports, found, valid]

end Progress

theorem isDiagnostic_of_mem_lineReports {line : Bytes} {number : Nat} {report : Report}
    (member : report ∈ Reference.lineReports line number) : report.isDiagnostic = true := by
  unfold Reference.lineReports at member
  split at member
  · cases List.mem_singleton.mp member
    rfl
  · obtain ⟨⟨field, column⟩, _, reported⟩ := List.mem_filterMap.mp member
    dsimp only [Reference.fieldReport?] at reported
    split at reported <;> cases reported
    rfl

theorem lineReports_diagnostic (line : Bytes) (number : Nat) :
    (Reference.lineReports line number).filter Report.isDiagnostic =
      Reference.lineReports line number :=
  List.filter_eq_self.mpr fun _ => isDiagnostic_of_mem_lineReports

theorem streamReports_diagnostic (records : List Log.Record) :
    (records.map Report.stream).filter Report.isDiagnostic = [] := by
  rw [List.filter_eq_nil_iff]
  intro report member
  obtain ⟨record, _, rfl⟩ := List.mem_map.mp member
  simp [Report.isDiagnostic]

/-- What a run of steps has done depends on the lines in the tokens, not on what else the stream
reported between them. -/
theorem foldl_addStep (steps : List Stream.Step) (progress : Progress) :
    let done := steps.foldl Progress.addStep progress
    let lines := steps.map fun step => step.token.preceding
    done.sums = (lines.flatMap Reference.lineValues).foldl
        (fun sums entry => addAt sums entry.1 entry.2) progress.sums ∧
      done.reports.filter Report.isDiagnostic =
        ((lines.zipIdx (progress.lines + 1)).flatMap fun (line, number) =>
          Reference.lineReports line number).reverse ++
          progress.reports.filter Report.isDiagnostic := by
  induction steps generalizing progress with
  | nil => exact ⟨rfl, rfl⟩
  | cons step steps ih =>
    obtain ⟨sums, reports⟩ := ih (progress.addStep step)
    simp only [List.foldl_cons, List.map_cons, List.flatMap_cons, List.zipIdx_cons]
    rw [sums, reports, Progress.addStep, Progress.addLine_spec]
    constructor
    · rw [List.foldl_append]
    · simp only [List.filter_append, List.filter_reverse, lineReports_diagnostic,
        streamReports_diagnostic, List.nil_append, List.reverse_append, List.append_assoc]

/-- A run works on the lines of all that is delivered. -/
theorem run_agrees (source : Stream.Source) (capacity : Nat) (positive : 1 ≤ capacity) :
    (run (.ofSource source capacity)).totals = Reference.totals source.delivered ∧
      (run (.ofSource source capacity)).reports.filter Report.isDiagnostic =
        Reference.reports source.delivered := by
  have passed := Stream.Tokens.start_passed Delimiter.lineBreak.finder
    Delimiter.lineBreak.settling source capacity positive
  have cut : ((Stream.Tokens.start (.ofSource source capacity)).steps Delimiter.lineBreak.finder).map
      (fun step => step.token.preceding) = Reference.lines source.delivered := by
    have firsts := congrArg (List.map Prod.fst) passed
    rw [List.map_map, List.map_map] at firsts
    rw [← split_lineBreak, Walk.split_eq_tokensOf]
    exact firsts
  obtain ⟨sums, reports⟩ := foldl_addStep
    ((Stream.Tokens.start (.ofSource source capacity)).steps Delimiter.lineBreak.finder) .empty
  rw [cut] at sums reports
  unfold run
  simp only [Stream.Tokens.foldl_eq_foldl_steps]
  constructor
  · rw [sums]
    exact foldl_addAt _
  · rw [List.filter_reverse, List.filter_cons_of_neg (by simp [Report.isDiagnostic]), reports]
    simp [Progress.empty, Report.isDiagnostic, Reference.reports]

/-- The stream keeps its records apart from those of the program, under targets of its own. -/
def Report.IsApart : Report → Prop
  | .stream record => record.target ≠ "column_sums"
  | _ => True

theorem Report.isApart_of_isDiagnostic {report : Report} (diagnostic : report.isDiagnostic = true) :
    report.IsApart := by
  cases report with
  | stream record => cases diagnostic
  | _ => trivial

theorem target_of_note {note : Stream.Note} {record : Log.Record}
    (noted : note.record? = some record) : record.target = "scan_framework::stream_buffer" := by
  cases note with
  | searched window => cases noted
  | compacted consumed kept =>
    cases noted
    rfl
  | grown before after =>
    cases noted
    rfl
  | read issued =>
    rw [Stream.Note.record?, Stream.Read.record?] at noted
    split at noted <;> cases noted <;> rfl
  | filled count window =>
    cases noted
    rfl

theorem isApart_addStep {progress : Progress} (apart : ∀ report ∈ progress.reports, report.IsApart)
    (step : Stream.Step) : ∀ report ∈ (progress.addStep step).reports, report.IsApart := by
  intro report member
  rw [Progress.addStep, Progress.addLine_spec, List.mem_append, List.mem_append, List.mem_reverse,
    List.mem_map] at member
  rcases member with diagnostic | ⟨record, noted, rfl⟩ | earlier
  · exact Report.isApart_of_isDiagnostic (isDiagnostic_of_mem_lineReports diagnostic)
  · obtain ⟨note, _, noted⟩ := List.mem_filterMap.mp (List.mem_reverse.mp noted)
    rw [Report.IsApart, target_of_note noted]
    decide
  · exact apart report earlier

theorem isApart_foldl_addStep (steps : List Stream.Step) {progress : Progress}
    (apart : ∀ report ∈ progress.reports, report.IsApart) :
    ∀ report ∈ (steps.foldl Progress.addStep progress).reports, report.IsApart := by
  induction steps generalizing progress with
  | nil => exact apart
  | cons step steps ih => exact ih (isApart_addStep apart step)

theorem isApart_run (buffer : Stream.Buffer) : ∀ report ∈ (run buffer).reports, report.IsApart := by
  intro report member
  rw [run, Stream.Tokens.foldl_eq_foldl_steps, List.mem_reverse, List.mem_cons] at member
  rcases member with rfl | member
  · trivial
  · refine isApart_foldl_addStep _ (fun first start => ?_) report member
    cases List.mem_singleton.mp start
    exact (by decide : "scan_framework::streaming" ≠ "column_sums")

theorem isWarning_record {report : Report} (apart : report.IsApart) :
    isWarning report.record = report.isDiagnostic := by
  cases report with
  | stream record =>
    have elsewhere : ¬record.target = "column_sums" := apart
    simp [isWarning, Report.record, Report.isDiagnostic, elsewhere]
  | notUtf8 line fault => rfl
  | notANumber line column field => rfl
  | consumed lines columns => rfl

theorem warnings_eq {reports : List Report} (apart : ∀ report ∈ reports, report.IsApart) :
    (reports.map Report.record).filter isWarning =
      (reports.filter Report.isDiagnostic).map Report.record := by
  rw [List.filter_map]
  exact congrArg (List.map Report.record)
    (List.filter_congr fun report member => isWarning_record (apart report member))

/-- The program, called with a capacity of at least one byte or none, prints the totals of its
input and reports its faulty lines and fields in order, whatever the capacity, however the input
comes and however it ends. The warnings among its records are these reports and no others. -/
theorem call_agrees_with_reference (arguments : List String) (source : Stream.Source)
    (capacity : Nat) (asked : capacity? arguments = some capacity) (positive : 1 ≤ capacity) :
    (run (.ofSource source capacity)).reports.filter Report.isDiagnostic =
        Reference.reports source.delivered ∧
      ∃ outcome, call arguments source = .ok outcome ∧
        outcome.output = "\t".intercalate
          ((Reference.totals source.delivered).map Floating.Format.double.render) ++ "\n" ∧
        outcome.records.filter isWarning = (Reference.reports source.delivered).map Report.record := by
  obtain ⟨totals, reports⟩ := run_agrees source capacity positive
  have opened : Stream.Setup.buffer ⟨some source, capacity⟩ = .ok (.ofSource source capacity) :=
    if_neg (show ¬capacity = 0 by omega)
  have called : call arguments source = .ok ⟨(run (.ofSource source capacity)).render,
      (run (.ofSource source capacity)).reports.map Report.record⟩ := by
    rw [call, asked]
    dsimp only
    rw [opened]
    rfl
  refine ⟨reports, _, called, ?_, ?_⟩
  · rw [Summary.render, totals]
  · rw [warnings_eq (isApart_run _), reports]

/-- Two bytes of room, a line end cut in two, a field that is no number and a line that is not
text: the first column is one and two. -/
theorem call_agrees_with_reference_on_faulty_lines :
    let source : Stream.Source :=
      [.data 0x31 [0x20, 0x78, 0x0d], .interrupted, .data 0x0a [0xff, 0x0a, 0x32],
        .failed .other]
    capacity? ["0x2"] = some 2 ∧ 1 ≤ 2 ∧
      (∃ outcome, call ["0x2"] source = .ok outcome ∧ outcome.output = "3\n" ∧
        (outcome.records.filter isWarning).map Log.Record.message =
          ["not a number", "skipping line that is not UTF-8"]) ∧
      (run (.ofSource source 2)).reports.filter Report.isDiagnostic =
        [.notANumber 1 1 [0x78], .notUtf8 2 ⟨0, some 1⟩] := by
  intro source
  have asked : capacity? ["0x2"] = some 2 := by decide +kernel
  have positive : 1 ≤ 2 := by decide
  have expected : Reference.reports source.delivered =
      [.notANumber 1 1 [0x78], .notUtf8 2 ⟨0, some 1⟩] := by decide +kernel
  obtain ⟨reports, outcome, called, output, records⟩ :=
    call_agrees_with_reference ["0x2"] source 2 asked positive
  refine ⟨asked, positive, ⟨outcome, called, output.trans (by decide +kernel), ?_⟩,
    reports.trans expected⟩
  rw [records, expected]
  rfl

end TextScan.ColumnSums
