/-! Log records and the filter that picks the ones to show. -/
namespace TextScan.Log

inductive Level where
  | error
  | warn
  | info
  | debug
  | trace
deriving DecidableEq

namespace Level

def name : Level → String
  | .error => "ERROR"
  | .warn => "WARN"
  | .info => "INFO"
  | .debug => "DEBUG"
  | .trace => "TRACE"

/-- A threshold shows the levels up to its own rank, so a threshold of zero shows nothing. -/
def rank : Level → Nat
  | .error => 1
  | .warn => 2
  | .info => 3
  | .debug => 4
  | .trace => 5

end Level

structure Record where
  level : Level
  target : String
  message : String
  fields : List (String × String)
deriving DecidableEq

namespace Record

def render (record : Record) : String :=
  record.level.name ++ " " ++ record.target ++ ": " ++
    " ".intercalate (record.message :: record.fields.map fun (key, value) => key ++ "=" ++ value)

end Record

structure Directive where
  target : String
  threshold : Nat
deriving DecidableEq

namespace Directive

/-- Thresholds by name, in any case, or by number. -/
def threshold? (name : String) : Option Nat :=
  match name.map Char.toLower with
  | "off" | "0" => some 0
  | "error" | "1" => some Level.error.rank
  | "warn" | "2" => some Level.warn.rank
  | "info" | "3" => some Level.info.rank
  | "debug" | "4" => some Level.debug.rank
  | "trace" | "5" => some Level.trace.rank
  | _ => none

/-- Reads a threshold, a target, or a target with its threshold. A target alone shows
everything. -/
def read? (text : String) : Option Directive :=
  match threshold? text, text.splitOn "=" with
  | some threshold, _ => some ⟨"", threshold⟩
  | none, [""] => none
  | none, [target] => some ⟨target, Level.trace.rank⟩
  | none, ["", _] => none
  | none, [target, ""] => some ⟨target, Level.trace.rank⟩
  | none, [target, name] => (threshold? name).map (⟨target, ·⟩)
  | none, _ => none

def covers (directive : Directive) (target : String) : Bool :=
  directive.target.toList.isPrefixOf target.toList

end Directive

abbrev Filter := List Directive

namespace Filter

/-- Reads directives between commas, leaving out those that are none. Without any directive only
errors show. -/
def read (text : Option String) : Filter :=
  match ((text.getD "").splitOn ",").filterMap Directive.read? with
  | [] => [⟨"", Level.error.rank⟩]
  | directives => directives

/-- The directive with the longest target decides, of equally long ones the last. A target that
no directive is about does not show. -/
def shows (filter : Filter) (record : Record) : Bool :=
  let decisive := (filter.filter (·.covers record.target)).foldl (fun best directive =>
    match best with
    | none => some directive
    | some (best : Directive) =>
      if best.target.length ≤ directive.target.length then some directive else some best) none
  match decisive with
  | some directive => record.level.rank ≤ directive.threshold
  | none => false

def lines (filter : Filter) (records : List Record) : List String :=
  (records.filter filter.shows).map Record.render

end Filter
end TextScan.Log
