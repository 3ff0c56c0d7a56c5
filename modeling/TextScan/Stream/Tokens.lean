import TextScan.Stream.Search

/-! The token sequence of a stream: one token per delimiter and a last one for what follows the
last delimiter, the same as for the whole stream in memory. -/
namespace TextScan.Stream

/-- A sequence under way: the buffer, and how much of its window the last token took, or nothing
after the last token. -/
structure Tokens where
  buffer : Buffer
  pending : Option Nat
deriving DecidableEq

structure Step where
  token : Token
  tokens : Tokens
  notes : List Note

namespace Tokens

def start (buffer : Buffer) : Tokens :=
  ⟨buffer, some 0⟩

def isFinished (tokens : Tokens) : Bool :=
  tokens.pending.isNone

def step (finder : Finder) (buffer : Buffer) (passed : Nat) : Step :=
  let settled := settle finder (buffer.consume passed)
  let token := settled.token
  ⟨token, ⟨settled.buffer, if token.isLast then none else some token.span.stop⟩, settled.notes⟩

def next? (finder : Finder) (tokens : Tokens) : Option Step :=
  tokens.pending.map (step finder tokens.buffer)

def remaining (tokens : Tokens) : Nat :=
  match tokens.pending with
  | some passed => (tokens.buffer.consume passed).unseen.length + 1
  | none => 0

theorem step_remaining_lt (finder : Finder) (buffer : Buffer) (passed : Nat) :
    (step finder buffer passed).tokens.remaining < (buffer.consume passed).unseen.length + 1 := by
  have total := congrArg List.length (settle_unseen finder (buffer.consume passed))
  have valid := settle_span_validFor finder (buffer.consume passed)
  simp only [step, remaining]
  split <;> rename_i pending
  · split at pending
    · cases pending
    · rename_i goesOn
      cases pending
      simp only [Token.isLast, Settled.token, Bool.or_eq_true, not_or, beq_iff_eq] at goesOn
      rw [Buffer.consume_unseen_length]
      simp only [Buffer.unseen, List.length_append, Settled.token, Span.ValidFor] at total valid ⊢
      omega
  · omega

theorem next?_remaining_lt {finder : Finder} {tokens : Tokens} {step : Step}
    (more : tokens.next? finder = some step) : step.tokens.remaining < tokens.remaining := by
  simp only [next?, Option.map_eq_some_iff] at more
  obtain ⟨passed, pending, rfl⟩ := more
  have less := step_remaining_lt finder tokens.buffer passed
  rwa [show tokens.remaining = (tokens.buffer.consume passed).unseen.length + 1 by
    simp only [remaining, pending]]

def steps (finder : Finder) (tokens : Tokens) : List Step :=
  match _ : tokens.next? finder with
  | some step => step :: steps finder step.tokens
  | none => []
termination_by tokens.remaining
decreasing_by exact next?_remaining_lt ‹_›

/-- Goes through the steps still to come without holding on to them. -/
def foldl {State : Type} (finder : Finder) (visit : State → Step → State) (state : State)
    (tokens : Tokens) : State :=
  match _ : tokens.next? finder with
  | some step => foldl finder visit (visit state step) step.tokens
  | none => state
termination_by tokens.remaining
decreasing_by exact next?_remaining_lt ‹_›

theorem foldl_eq_foldl_steps {State : Type} (finder : Finder) (visit : State → Step → State)
    (state : State) (tokens : Tokens) :
    foldl finder visit state tokens = (steps finder tokens).foldl visit state := by
  fun_induction foldl finder visit state tokens with
  | case1 state tokens step more ih =>
    rw [steps]
    split
    · rename_i more'
      cases more.symm.trans more'
      exact ih
    · rename_i none
      cases more.symm.trans none
  | case2 state tokens none =>
    rw [steps]
    split
    · rename_i more
      cases none.symm.trans more
    · rfl

end Tokens
end TextScan.Stream
