import TextScan.Log
import TextScan.Stream.Buffer

/-! The log records of a stream at work. Searches and reads that bring data leave none. -/
namespace TextScan.Stream
open Log (Record)

def startRecord : Record :=
  ⟨.debug, "scan_framework::streaming", "starting stream tokenizer", []⟩

private def bufferRecord (level : Log.Level) (message : String) (fields : List (String × String)) :
    Record :=
  ⟨level, "scan_framework::stream_buffer", message, fields⟩

def Read.record? (read : Read) : Option Record :=
  match read.outcome with
  | .ended => some (bufferRecord .trace "byte source exhausted" [("size", toString read.held)])
  | .failed failure => some (bufferRecord .warn "read failed, treating it as end of stream"
      [("error", failure.message)])
  | .received _ => none
  | .interrupted => none

def Note.record? : Note → Option Record
  | .searched _ => none
  | .compacted consumed kept => some (bufferRecord .debug "compacting stream buffer"
      [("consumed", toString consumed), ("kept", toString kept)])
  | .grown before after => some (bufferRecord .debug "growing stream buffer"
      [("from", toString before), ("to", toString after)])
  | .read issued => issued.record?
  | .filled count window => some (bufferRecord .trace "filled stream buffer"
      [("read", toString count), ("window", toString window)])

end TextScan.Stream
