import TextScan.ColumnSums

/-! The command line: standard input to totals, diagnostics to standard error. -/
namespace TextScan

private def failureOf : IO.Error → Stream.ReadFailure
  | .inappropriateType _ code reason => .system code.toNat reason
  | .otherError code reason => .system code.toNat reason
  | _ => .other

/-- Reads everything that a stream delivers, up to its end or its first failure. -/
private partial def collect (input : IO.FS.Stream) (events : List Stream.Event) :
    IO Stream.Source := do
  match ← (input.read 65536).toBaseIO with
  | .ok bytes =>
    match bytes.toList with
    | [] => return events.reverse
    | first :: rest => collect input (.data first rest :: events)
  | .error failure => return (Stream.Event.failed (failureOf failure) :: events).reverse

end TextScan

/-- Reads nothing unless a buffer can start with the capacity that was asked for. -/
def main (arguments : List String) : IO UInt32 := do
  let source ← match TextScan.ColumnSums.capacity? arguments with
    | some (_ + 1) => TextScan.collect (← IO.getStdin) []
    | _ => pure []
  match TextScan.ColumnSums.call arguments source with
  | .ok outcome =>
    let filter := TextScan.Log.Filter.read (← IO.getEnv "RUST_LOG")
    (filter.lines outcome.records).forM fun line => do (← IO.getStderr).putStrLn line
    (← IO.getStdout).putStr outcome.output
    return 0
  | .error misuse =>
    (← IO.getStderr).putStrLn ("Error: " ++ misuse.name)
    return 1
