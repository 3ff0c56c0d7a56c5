import TextScan.Stream.Search
import TextScan.Proofs.Stream.Fill

/-! A settled search sees through the window. The buffer shows some bytes of what is still to
come and hides the others, yet for a finder that settles the span is the one in all of them. -/
namespace TextScan

/-- The same cut in a window of which only the front is shown. -/
structure Token.FrontOf (front whole : Token) : Prop where
  span_eq : front.span = whole.span
  window_prefix : front.window <+: whole.window
  valid : front.span.ValidFor front.window.length

namespace Token.FrontOf
variable {front whole : Token}

theorem preceding_eq (shown : front.FrontOf whole) : front.preceding = whole.preceding := by
  obtain ⟨hidden, window⟩ := shown.window_prefix
  have inside := shown.valid
  simp only [Span.ValidFor] at inside
  rw [preceding, preceding, ← window, ← shown.span_eq, List.take_append_of_le_length (by omega)]

theorem delimiter_eq (shown : front.FrontOf whole) : front.delimiter = whole.delimiter := by
  obtain ⟨hidden, window⟩ := shown.window_prefix
  have inside := shown.valid
  simp only [Span.ValidFor] at inside
  have enough : front.span.length ≤ (front.window.drop front.span.start).length := by
    rw [List.length_drop, Span.length]
    omega
  rw [delimiter, delimiter, ← window, ← shown.span_eq, List.drop_append_of_le_length (by omega),
    List.take_append_of_le_length enough]

theorem remainder_prefix (shown : front.FrontOf whole) : front.remainder <+: whole.remainder := by
  obtain ⟨hidden, window⟩ := shown.window_prefix
  refine ⟨hidden, ?_⟩
  rw [remainder, remainder, ← window, ← shown.span_eq,
    List.drop_append_of_le_length shown.valid.2]

end Token.FrontOf

namespace Stream

theorem settle_sound (finder : Finder) (buffer : Buffer) (sound : buffer.Sound) :
    (settle finder buffer).buffer.Sound := by
  fun_induction settle finder buffer with
  | case1 buffer _ _ _ _ _ _ ih => exact ih sound.fill.1
  | case2 => exact sound.fill.1
  | case3 => exact sound

/-- A search only ever adds to the window. -/
theorem settle_window_prefix (finder : Finder) (buffer : Buffer) :
    buffer.window <+: (settle finder buffer).buffer.window := by
  fun_induction settle finder buffer with
  | case1 buffer _ _ _ _ _ _ ih =>
    obtain ⟨received, window, _⟩ := buffer.fill_window
    exact (window ▸ List.prefix_append buffer.window received).trans ih
  | case2 buffer _ _ _ _ same =>
    have window := Buffer.fill_window_of_not_grew same
    exact ⟨[], (List.append_nil _).trans window.symm⟩
  | case3 => exact List.prefix_rfl

/-- A settled span that touches the end of its window has nothing behind it. -/
theorem settle_reachesEnd (finder : Finder) (buffer : Buffer) (sound : buffer.Sound)
    (reaches : (settle finder buffer).span.stop = (settle finder buffer).buffer.window.length) :
    undelivered (settle finder buffer).buffer.source = [] := by
  fun_induction settle finder buffer with
  | case1 buffer _ _ _ _ _ _ ih => exact ih sound.fill.1 reaches
  | case2 buffer _ _ _ _ same =>
    change undelivered buffer.fill.buffer.source = []
    have kept := congrArg List.length buffer.fill_unseen
    have last := sound.undelivered_of_not_grew same
    simp only [Buffer.unseen, List.length_append, Buffer.fill_window_of_not_grew same, last,
      List.length_nil] at kept
    exact List.eq_nil_of_length_eq_zero (by omega)
  | case3 buffer _ _ inside => simp_all [Span.reachesEnd]

/-- The delimiter that is settled for is the one in all the bytes to come. -/
theorem settle_span (finder : Finder) (settling : finder.Settling) (buffer : Buffer)
    (sound : buffer.Sound) : (settle finder buffer).span = finder.find buffer.unseen := by
  fun_induction settle finder buffer with
  | case1 buffer _ _ _ _ _ _ ih =>
    rw [← buffer.fill_unseen]
    exact ih sound.fill.1
  | case2 buffer _ _ _ _ same =>
    rw [Buffer.unseen, sound.undelivered_of_not_grew same, List.append_nil]
  | case3 buffer _ _ inside =>
    have valid := (finder.find_valid buffer.window).2
    have differs : (finder.find buffer.window).stop ≠ buffer.window.length := by
      simpa [Span.reachesEnd] using inside
    have before : (finder.find buffer.window).stop < buffer.window.length := by omega
    exact (settling buffer.window (undelivered buffer.source) before).symm

theorem settle_frontOf (finder : Finder) (settling : finder.Settling) (buffer : Buffer)
    (sound : buffer.Sound) :
    (settle finder buffer).token.FrontOf (finder.token buffer.unseen) where
  span_eq := settle_span finder settling buffer sound
  window_prefix := ⟨undelivered (settle finder buffer).buffer.source, settle_unseen finder buffer⟩
  valid := settle_span_validFor finder buffer

/-- Whether a token is the last one does not depend on how much of its window is shown. -/
theorem settle_isLast (finder : Finder) (settling : finder.Settling) (buffer : Buffer)
    (sound : buffer.Sound) :
    (settle finder buffer).token.isLast = (finder.token buffer.unseen).isLast := by
  have same := settle_span finder settling buffer sound
  have total := congrArg List.length (settle_unseen finder buffer)
  have valid := (settle_span_validFor finder buffer).2
  have touches : (settle finder buffer).span.stop = (settle finder buffer).buffer.window.length ↔
      (settle finder buffer).span.stop = buffer.unseen.length := by
    constructor
    · intro reaches
      have last := settle_reachesEnd finder buffer sound reaches
      rw [Buffer.unseen, last, List.append_nil] at total
      omega
    · intro reaches
      rw [Buffer.unseen, List.length_append] at total
      omega
  rw [Bool.eq_iff_iff]
  simp only [Token.isLast, Span.isNotFound, Span.reachesEnd, Settled.token, Finder.token, ← same,
    Bool.or_eq_true, Bool.and_eq_true, beq_iff_eq, touches]

theorem Buffer.consume_unseen (buffer : Buffer) (count : Nat)
    (inside : count ≤ buffer.window.length) :
    (buffer.consume count).unseen = buffer.unseen.drop count := by
  simp only [consume, unseen, List.drop_append_of_le_length inside]

theorem settle_remainder (finder : Finder) (settling : finder.Settling) (buffer : Buffer)
    (sound : buffer.Sound) :
    ((settle finder buffer).buffer.consume (settle finder buffer).span.stop).unseen =
      (finder.token buffer.unseen).remainder := by
  rw [Buffer.consume_unseen _ _ (settle_span_validFor finder buffer).2, settle_unseen,
    settle_span finder settling buffer sound]
  rfl

end Stream
end TextScan
