import TextScan.Stream.Cursor
import TextScan.Stream.Tokens

/-! Setting up cursors and token sequences, and the ways to misuse them. Malformed input is no
misuse: a missing delimiter is a span, and a failed read ends the data. -/
namespace TextScan.Stream

inductive Misuse where
  | alreadyStarted
  | missingSource
  | invalidCapacity
deriving DecidableEq

namespace Misuse

def name : Misuse → String
  | .alreadyStarted => "AlreadyStarted"
  | .missingSource => "MissingSource"
  | .invalidCapacity => "InvalidCapacity"

def message : Misuse → String
  | .alreadyStarted => "stream tokenizer has already been started"
  | .missingSource => "no byte source was supplied"
  | .invalidCapacity => "stream buffer capacity must be at least one byte"

end Misuse

def Buffer.withCapacity (source : Source) (capacity : Nat) : Except Misuse Buffer :=
  if capacity = 0 then .error .invalidCapacity else .ok (ofSource source capacity)

structure Setup where
  source : Option Source := none
  capacity : Nat := Buffer.defaultFloor

namespace Setup

/-- A missing source is reported before a bad capacity. -/
def buffer (setup : Setup) : Except Misuse Buffer :=
  match setup.source with
  | none => .error .missingSource
  | some source => Buffer.withCapacity source setup.capacity

end Setup

/-- A token sequence that can be started once. -/
structure Tokenizer where
  unstarted : Option Buffer
deriving DecidableEq

namespace Tokenizer

def ofBuffer (buffer : Buffer) : Tokenizer :=
  ⟨some buffer⟩

def isStarted (tokenizer : Tokenizer) : Bool :=
  tokenizer.unstarted.isNone

def begin (tokenizer : Tokenizer) : Except Misuse (Tokens × Tokenizer) :=
  match tokenizer.unstarted with
  | some buffer => .ok (.start buffer, ⟨none⟩)
  | none => .error .alreadyStarted

end Tokenizer
end TextScan.Stream
