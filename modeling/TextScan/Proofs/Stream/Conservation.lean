import TextScan.Proofs.Stream.Chunking
import Mathlib.Logic.Function.Iterate

/-! What a stream's tokens keep of its data for any finder at all, also for one whose answers
change with what is buffered: the walk ends, and what its tokens pass over is the front of the
data, all of it if the last token found no delimiter. -/
namespace TextScan.Stream

theorem Buffer.take_append_consume_unseen (buffer : Buffer) (count : Nat)
    (inside : count ≤ buffer.window.length) :
    buffer.window.take count ++ (buffer.consume count).unseen = buffer.unseen := by
  rw [Buffer.consume_unseen buffer count inside, unseen,
    List.drop_append_of_le_length inside, ← List.append_assoc, List.take_append_drop]

namespace Step

def bytes (step : Step) : Bytes :=
  step.token.preceding ++ step.token.delimiter

def behind (step : Step) : Bytes :=
  (step.tokens.buffer.consume step.token.span.stop).unseen

end Step

namespace Tokens
variable {finder : Finder} {tokens : Tokens}

/-- The bytes that no token has passed over yet. -/
def ahead (tokens : Tokens) : Bytes :=
  match tokens.pending with
  | some passed => (tokens.buffer.consume passed).unseen
  | none => []

/-- What one call does: its token passes over the front of what is ahead and leaves what is behind
it to the next call. -/
structure Advances (tokens : Tokens) (taken : Step) : Prop where
  sound : taken.tokens.buffer.Sound
  valid : taken.token.span.ValidFor taken.token.window.length
  finished_eq : taken.tokens.isFinished = taken.token.isLast
  ahead_eq : taken.bytes ++ taken.behind = tokens.ahead
  goesOn : taken.token.isLast = false → taken.tokens.ahead = taken.behind
  spent : taken.token.span = .notFound taken.token.window.length → taken.behind = []

theorem step_advances (finder : Finder) (buffer : Buffer) (sound : buffer.Sound) (passed : Nat) :
    Advances ⟨buffer, some passed⟩ (step finder buffer passed) := by
  have reached := sound.consume passed
  have valid := settle_span_validFor finder (buffer.consume passed)
  have same := settle_unseen finder (buffer.consume passed)
  refine ⟨settle_sound finder _ reached, valid, ?_, ?_, ?_, ?_⟩
  · simp only [step, isFinished]
    split <;> rename_i last <;> simp [last]
  · rw [Step.bytes, Token.preceding_append_delimiter _ valid.1]
    exact (Buffer.take_append_consume_unseen _ _ valid.2).trans same
  · intro more
    simp only [step, ahead, Step.behind] at more ⊢
    rw [more]
    rfl
  · intro none
    -- No delimiter is the empty span at the window's end, and a settled search stops there only
    -- when nothing is to come.
    have touches : (settle finder (buffer.consume passed)).span.stop =
        (settle finder (buffer.consume passed)).buffer.window.length := congrArg Span.stop none
    have empty := settle_reachesEnd finder _ reached touches
    change ((settle finder (buffer.consume passed)).buffer.consume
      (settle finder (buffer.consume passed)).span.stop).unseen = []
    rw [Buffer.consume_unseen _ _ valid.2, touches, Buffer.unseen, empty, List.append_nil,
      List.drop_length]

theorem next?_advances {taken : Step} (sound : tokens.buffer.Sound)
    (more : tokens.next? finder = some taken) : Advances tokens taken := by
  obtain ⟨buffer, pending⟩ := tokens
  obtain ⟨passed, rfl, rfl⟩ := Option.map_eq_some_iff.mp more
  exact step_advances finder buffer sound passed

theorem next?_eq_none_iff : tokens.next? finder = none ↔ tokens.isFinished = true := by
  simp [next?, isFinished]

theorem steps_of_none (finished : tokens.next? finder = none) : tokens.steps finder = [] := by
  obtain ⟨buffer, pending⟩ := tokens
  obtain rfl : pending = none := Option.map_eq_none_iff.mp finished
  exact steps_none finder buffer

theorem steps_of_some {taken : Step} (more : tokens.next? finder = some taken) :
    tokens.steps finder = taken :: taken.tokens.steps finder := by
  obtain ⟨buffer, pending⟩ := tokens
  obtain ⟨passed, rfl, rfl⟩ := Option.map_eq_some_iff.mp more
  exact steps_some finder buffer passed

theorem steps_length_le (finder : Finder) (tokens : Tokens) :
    (tokens.steps finder).length ≤ tokens.remaining := by
  fun_induction steps finder tokens with
  | case1 tokens taken more ih =>
    have less := next?_remaining_lt more
    rw [List.length_cons]
    omega
  | case2 => exact Nat.zero_le _

def afterCall (finder : Finder) (tokens : Tokens) : Tokens :=
  ((tokens.next? finder).map Step.tokens).getD tokens

theorem next?_afterCall (finder : Finder) (tokens : Tokens) (calls : Nat) :
    ((afterCall finder)^[calls] tokens).next? finder = (tokens.steps finder)[calls]? := by
  induction calls generalizing tokens with
  | zero =>
    cases next : tokens.next? finder with
    | none => rw [steps_of_none next, Function.iterate_zero_apply, next, List.getElem?_nil]
    | some taken => rw [steps_of_some next, Function.iterate_zero_apply, next,
        List.getElem?_cons_zero]
  | succ calls ih =>
    rw [Function.iterate_succ_apply, ih]
    cases next : tokens.next? finder with
    | none => simp [afterCall, next, steps_of_none next]
    | some taken => simp [afterCall, next, steps_of_some next]

/-- By the walk's own recursion: what each token passes over comes off the front of what is ahead, so
nothing is assumed about the finder's answers on different windows. -/
theorem steps_ahead (finder : Finder) (tokens : Tokens) (sound : tokens.buffer.Sound)
    (unfinished : tokens.isFinished = false) :
    ∃ earlier last, tokens.steps finder = earlier ++ [last] ∧
      (∀ taken ∈ earlier, taken.token.isLast = false) ∧ last.token.isLast = true ∧
      (∀ taken ∈ earlier ++ [last], taken.token.span.ValidFor taken.token.window.length) ∧
      (earlier ++ [last]).flatMap Step.bytes ++ last.behind = tokens.ahead ∧
      (last.token.span = .notFound last.token.window.length → last.behind = []) := by
  fun_induction steps finder tokens with
  | case1 tokens taken more ih =>
    have advances := next?_advances sound more
    cases ends : taken.token.isLast with
    | true =>
      have finished : taken.tokens.isFinished = true := advances.finished_eq.trans ends
      rw [steps_of_none (next?_eq_none_iff.mpr finished)]
      refine ⟨[], taken, rfl, by simp, ends, by simpa using advances.valid, ?_, advances.spent⟩
      simpa using advances.ahead_eq
    | false =>
      obtain ⟨earlier, last, steps_eq, before, ends', valid, ahead_eq, spent⟩ :=
        ih advances.sound (advances.finished_eq.trans ends)
      refine ⟨taken :: earlier, last, by rw [steps_eq]; rfl, ?_, ends', ?_, ?_, spent⟩
      · exact List.forall_mem_cons.mpr ⟨ends, before⟩
      · exact List.forall_mem_cons.mpr ⟨advances.valid, valid⟩
      · rw [List.cons_append, List.flatMap_cons, List.append_assoc, ahead_eq,
          advances.goesOn ends, advances.ahead_eq]
  | case2 tokens none =>
    rw [next?_eq_none_iff, unfinished] at none
    cases none

/-- For any finder at all the calls end: there are at most as many tokens as bytes and one more,
each call yields the next of them, and afterwards the sequence is finished for good. Each token
cuts its window in three, and what the tokens pass over is the front of the data, or all of it if
the last token found no delimiter. Only the last token finds none or would leave the walk where
it is. -/
theorem steps_conserve_bytes (finder : Finder) (source : Source) (capacity : Nat)
    (positive : 1 ≤ capacity) :
    let first := start (.ofSource source capacity)
    let steps := first.steps finder
    (∀ calls, ((afterCall finder)^[calls] first).next? finder = steps[calls]? ∧
        (((afterCall finder)^[calls] first).isFinished = true ↔ steps.length ≤ calls)) ∧
      steps.length ≤ source.delivered.length + 1 ∧
      (∀ taken ∈ steps, taken.token.preceding ++ taken.token.delimiter ++ taken.token.remainder =
        taken.token.window) ∧
      steps.flatMap (fun taken => taken.token.preceding ++ taken.token.delimiter) <+:
        source.delivered ∧
      ∃ earlier last, steps = earlier ++ [last] ∧
        (last.token.span = .notFound last.token.window.length →
          steps.flatMap (fun taken => taken.token.preceding ++ taken.token.delimiter) =
            source.delivered) ∧
        (last.token.span = .notFound last.token.window.length ∨ last.token.span.stop = 0) ∧
        ∀ taken ∈ earlier, ¬(taken.token.span = .notFound taken.token.window.length ∨
          taken.token.span.stop = 0) := by
  intro first steps
  have sound := Buffer.sound_ofSource source capacity positive
  have count : steps.length ≤ source.delivered.length + 1 := steps_length_le finder first
  obtain ⟨earlier, last, steps_eq, before, ends, valid, ahead_eq, spent⟩ :=
    steps_ahead finder first sound rfl
  rw [← steps_eq] at ahead_eq valid
  have delivered : steps.flatMap Step.bytes ++ last.behind = source.delivered := ahead_eq
  refine ⟨fun calls => ?_, count, fun taken member => ?_, ⟨last.behind, delivered⟩, earlier, last,
    steps_eq, fun none => ?_, last.token.isLast_iff.mp ends, fun taken member => ?_⟩
  · have yields := next?_afterCall finder first calls
    exact ⟨yields, by rw [← next?_eq_none_iff, yields, List.getElem?_eq_none_iff]⟩
  · exact taken.token.preceding_delimiter_remainder (valid taken member).1
  · rw [spent none, List.append_nil] at delivered
    exact delivered
  · rw [← Token.isLast_iff, before taken member]
    exact Bool.false_ne_true

/-- A finder whose answers change with what is buffered: the last byte of its kind in the window. -/
def lastByte (value : UInt8) : Finder :=
  .clamp fun window =>
    match window.reverse.findIdx? (· == value) with
    | some back => ⟨window.length - back - 1, window.length - back⟩
    | none => .notFound window.length

/-- In a small buffer the walk stops at a comma that it would pass over in a larger one, and keeps
all bytes in both. -/
theorem steps_conserve_bytes_last_comma :
    let source : Source :=
      [.data 0x61 [0x2c], .interrupted, .data 0x62 [0x2c], .data 0x63 [], .failed .other]
    let steps := fun capacity => (start (.ofSource source capacity)).steps (lastByte 0x2c)
    1 ≤ 3 ∧ (steps 3).length ≤ 5 + 1 ∧
      (steps 3).flatMap (fun taken => taken.token.preceding ++ taken.token.delimiter) <+:
        source.delivered ∧
      (steps 3).map Step.bytes = [[0x61, 0x2c], [0x62, 0x2c], [0x63]] ∧
      (steps 5).map Step.bytes = [[0x61, 0x2c, 0x62, 0x2c], [0x63]] := by
  obtain ⟨_, count, _, front, _⟩ := steps_conserve_bytes (lastByte 0x2c)
    [.data 0x61 [0x2c], .interrupted, .data 0x62 [0x2c], .data 0x63 [], .failed .other] 3 (by decide)
  exact ⟨by decide, count, front, by decide +kernel, by decide +kernel⟩

end Tokens
end TextScan.Stream
