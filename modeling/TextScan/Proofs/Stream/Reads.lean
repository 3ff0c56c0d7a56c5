import TextScan.Proofs.Stream.History

/-! The reads that a fill issues. Each is offered all the room that is left, and some is always left,
so a read of no bytes has met the end of the data. Only that or a failure ends the reading early, and
after it nothing is read any more. -/
namespace TextScan.Stream

namespace Outcome

/-- The count of bytes that a read reports. -/
def count? : Outcome → Option Nat
  | .received bytes => some bytes.length
  | .interrupted => none
  | .failed _ => none
  | .ended => some 0

/-- What a source is not read after. -/
def isLast : Outcome → Bool
  | .received _ => false
  | .interrupted => false
  | .failed _ => true
  | .ended => true

end Outcome

namespace Source

/-- No data stands in front of the end. -/
def AtEnd (source : Source) : Prop :=
  source = [] ∨ ∃ left, source = .endOfData :: left

/-- What a source answers to reads one after another, and what it holds after them. -/
inductive Answers : Source → List Read → Source → Prop
  | nil (source : Source) : Answers source [] source
  | cons {source next left : Source} {issued : Read} {reads : List Read}
      (answer : source.read issued.room = (issued.outcome, next)) (more : Answers next reads left) :
      Answers source (issued :: reads) left

/-- Only because there is room does a read of no bytes say that the data has ended. -/
theorem count?_read (source : Source) {room : Nat} (positive : 0 < room) :
    (source.read room).1.count? = some 0 ↔ source.AtEnd := by
  cases source with
  | nil => exact ⟨fun _ => .inl rfl, fun _ => rfl⟩
  | cons event source =>
    cases event with
    | data first rest =>
      simp only [read, Outcome.count?, AtEnd, Option.some.injEq, List.length_take, List.length_cons,
        List.cons.injEq, reduceCtorEq, false_and, exists_false, or_false, iff_false]
      omega
    | interrupted => simp [read, Outcome.count?, AtEnd]
    | failed failure => simp [read, Outcome.count?, AtEnd]
    | endOfData => simp [read, Outcome.count?, AtEnd]

end Source

/-- One of the reads that fill a space of some capacity, of which `held` bytes were taken before the
first of them. The reads before it brought the source to where it met it, and it was the last one if
the source was dropped after it. -/
structure ReadAmong (capacity held : Nat) (source : Source) (left : Option Source)
    (before : List Read) (issued : Read) (after : List Read) : Prop where
  held_eq : issued.held = held + (before.flatMap Read.bytes).length
  room_eq : issued.room = capacity - issued.held
  room_pos : 0 < issued.room
  answered : ∃ met, source.Answers before met ∧ (met.read issued.room).1 = issued.outcome ∧
    (issued.outcome.count? = some 0 ↔ met.AtEnd)
  isLast_iff : issued.outcome.isLast = true ↔ after = [] ∧ left = none

def EachRead (capacity held : Nat) (source : Source) (left : Option Source) (reads : List Read) :
    Prop :=
  ∀ before issued after, reads = before ++ issued :: after →
    ReadAmong capacity held source left before issued after

section EachRead
variable {capacity held : Nat} {source next : Source} {left : Option Source}
  {before after reads : List Read} {earlier issued : Read} {outcome : Outcome}

theorem readAmong_first (free : held < capacity)
    (answer : source.read (capacity - held) = (outcome, next))
    (isLast_iff : outcome.isLast = true ↔ after = [] ∧ left = none) :
    ReadAmong capacity held source left [] ⟨held, capacity - held, outcome⟩ after := by
  have positive : 0 < capacity - held := Nat.sub_pos_of_lt free
  have outcome_eq : (source.read (capacity - held)).1 = outcome := congrArg Prod.fst answer
  refine ⟨rfl, rfl, positive, ⟨source, .nil source, outcome_eq, ?_⟩, isLast_iff⟩
  rw [← outcome_eq]
  exact source.count?_read positive

theorem ReadAmong.cons (answer : source.read earlier.room = (earlier.outcome, next))
    (later : ReadAmong capacity (held + earlier.bytes.length) next left before issued after) :
    ReadAmong capacity held source left (earlier :: before) issued after := by
  obtain ⟨met, answers, answered⟩ := later.answered
  refine ⟨?_, later.room_eq, later.room_pos, ⟨met, .cons answer answers, answered⟩,
    later.isLast_iff⟩
  rw [later.held_eq, List.flatMap_cons, List.length_append, Nat.add_assoc]

theorem eachRead_nil : EachRead capacity held source left [] := by
  intro before issued after reads
  exact absurd reads.symm (List.append_ne_nil_of_right_ne_nil _ (List.cons_ne_nil _ _))

theorem EachRead.cons (free : held < capacity)
    (answer : source.read (capacity - held) = (outcome, next))
    (isLast_iff : outcome.isLast = true ↔ reads = [] ∧ left = none)
    (later : EachRead capacity (held + outcome.bytes.length) next left reads) :
    EachRead capacity held source left (⟨held, capacity - held, outcome⟩ :: reads) := by
  intro before issued after split
  cases before with
  | nil =>
    cases split
    exact readAmong_first free answer isLast_iff
  | cons earlier before =>
    injection split with first more
    subst first
    exact (later before issued after more).cons answer

end EachRead

namespace Source

/-- A source is dropped by the last of some reads. -/
theorem drain_source_of_no_reads (capacity held : Nat) (source : Source) :
    ¬((source.drain capacity held).reads = [] ∧ (source.drain capacity held).source = none) := by
  intro ⟨unread, ended⟩
  induction held, source using drain_induction capacity with
  | full held source full =>
    rw [drain_full _ _ _ full] at ended
    cases ended
  | _ held source =>
    rw [drain_read _ _ _ ‹_›, ‹source.read _ = _›] at unread
    cases unread

theorem eachRead_drain (capacity held : Nat) (source : Source) :
    EachRead capacity held source (source.drain capacity held).source
      (source.drain capacity held).reads := by
  induction held, source using drain_induction capacity with
  | full held source full =>
    rw [drain_full _ _ _ full]
    exact eachRead_nil
  | received held source bytes left free answers ih =>
    rw [drain_read _ _ _ free, answers]
    have goesOn := drain_source_of_no_reads capacity (held + bytes.length) left
    exact .cons free answers (iff_of_false Bool.false_ne_true goesOn) ih
  | interrupted held source left free answers ih =>
    rw [drain_read _ _ _ free, answers]
    have goesOn := drain_source_of_no_reads capacity held left
    exact .cons free answers (iff_of_false Bool.false_ne_true goesOn) ih
  | failed held source failure left free answers =>
    rw [drain_read _ _ _ free, answers]
    exact .cons free answers (iff_of_true rfl ⟨rfl, rfl⟩) eachRead_nil
  | ended held source left free answers =>
    rw [drain_read _ _ _ free, answers]
    exact .cons free answers (iff_of_true rfl ⟨rfl, rfl⟩) eachRead_nil

end Source

namespace Buffer
variable {buffer : Buffer}

theorem fill_of_exhausted (gone : buffer.source = none) : buffer.fill = ⟨false, buffer, []⟩ := by
  rw [fill, gone]

theorem makeRoom_offset (buffer : Buffer) : buffer.makeRoom.1.offset = 0 := by
  unfold makeRoom
  split
  · rfl
  · rename_i unmoved
    split <;> exact Decidable.not_not.mp unmoved

theorem makeRoom_size (buffer : Buffer) : buffer.makeRoom.1.size = buffer.window.length := by
  rw [size, makeRoom_offset, makeRoom_window, Nat.zero_add]

theorem grew_iff_longer (buffer : Buffer) :
    buffer.fill.grew = true ↔ buffer.window.length < buffer.fill.buffer.window.length := by
  obtain ⟨received, window, grew⟩ := buffer.fill_window
  rw [grew, window, List.length_append, ← List.length_pos_iff]
  omega

theorem fill_window_of_grew (grew : buffer.fill.grew = true) :
    buffer.window <+: buffer.fill.buffer.window ∧ buffer.window ≠ buffer.fill.buffer.window := by
  have longer := buffer.grew_iff_longer.mp grew
  refine ⟨⟨_, buffer.fill_window_reads.symm⟩, fun same => ?_⟩
  rw [← same] at longer
  exact Nat.lt_irrefl _ longer

theorem eachRead_fill {current : Source} (present : buffer.source = some current) :
    buffer.fill.buffer.offset = 0 ∧
      EachRead buffer.fill.buffer.capacity buffer.window.length current buffer.fill.buffer.source
        buffer.fill.reads := by
  rw [fill_reads present, ← makeRoom_size]
  simp only [fill, present]
  exact ⟨buffer.makeRoom_offset, current.eachRead_drain _ _⟩

end Buffer

namespace History
variable {history later : History}

theorem Use.of_exhausted (gone : history.storage.source = none) (use : Use history later) :
    later.storage.source = none ∧ later.reads = history.reads := by
  cases use with
  | fill =>
    rw [History.fill, Storage.fill, gone]
    exact ⟨gone, List.append_nil _⟩
  | consume count inside => exact ⟨gone, rfl⟩

theorem leadsTo_of_exhausted (gone : history.storage.source = none) (uses : LeadsTo history later) :
    later.storage.source = none ∧ later.reads = history.reads := by
  induction uses with
  | refl => exact ⟨gone, rfl⟩
  | tail _ use ih =>
    obtain ⟨still, reads_eq⟩ := ih
    obtain ⟨next, same⟩ := use.of_exhausted still
    exact ⟨next, same.trans reads_eq⟩

/-- A fill reads on, into all the room that is left, until the buffer is full or the source has ended
or failed. There always is room for a read, so one of no bytes is the end of the data. What was read
before the end is kept; a fill that brings nothing leaves the window as it was and the source dropped,
and a dropped source is never read again. -/
theorem fill_reads_until_full_or_ended (source : Source) (capacity : Nat) (positive : 1 ≤ capacity)
    (history : History) (reached : LeadsTo (start source capacity) history) :
    let buffer := history.buffer
    let filled := buffer.fill
    (∀ current, buffer.source = some current → filled.buffer.offset = 0 ∧
        EachRead filled.buffer.capacity buffer.window.length current filled.buffer.source
          filled.reads) ∧
      (filled.grew = true ↔ buffer.window.length < filled.buffer.window.length) ∧
      (filled.grew = true →
        buffer.window <+: filled.buffer.window ∧ buffer.window ≠ filled.buffer.window) ∧
      (filled.grew = false →
        filled.buffer.isExhausted = true ∧ filled.buffer.window = buffer.window) ∧
      (filled.buffer.isExhausted = false → filled.buffer.size = filled.buffer.capacity) ∧
      filled.buffer.window = buffer.window ++ filled.reads.flatMap Read.bytes ∧
      (buffer.isExhausted = true → ∀ later, LeadsTo history later →
        later.reads = history.reads ∧ later.buffer.fill = ⟨false, later.buffer, []⟩) ∧
      (history.storage.fill.grew = filled.grew ∧ history.storage.fill.reads = filled.reads ∧
        history.storage.fill.storage.buffer = filled.buffer) := by
  intro buffer filled
  obtain ⟨kept, _⟩ := (kept_start source capacity positive).leadsTo reached
  have in_place : history.storage.buffer = buffer := kept.in_place
  obtain ⟨_, filled_eq, grew_eq, reads_eq⟩ := kept.ordered.fill
  rw [in_place] at filled_eq grew_eq reads_eq
  refine ⟨fun current => Buffer.eachRead_fill, buffer.grew_iff_longer, Buffer.fill_window_of_grew,
    fun same => ?_, fun goesOn => ?_, buffer.fill_window_reads, fun exhausted later uses => ?_,
    grew_eq, reads_eq, filled_eq⟩
  · have still : ¬buffer.fill.grew = true := Bool.eq_false_iff.mp same
    exact ⟨Option.isNone_iff_eq_none.mpr (kept.sound.source_of_not_grew still),
      Buffer.fill_window_of_not_grew still⟩
  · exact (Buffer.fill_full kept.sound).resolve_left (Bool.eq_false_iff.mp goesOn)
  · have gone : history.storage.source = none :=
      (congrArg Buffer.source in_place).trans (Option.isNone_iff_eq_none.mp exhausted)
    obtain ⟨still, same⟩ := leadsTo_of_exhausted gone uses
    have later_in_place := (kept.leadsTo uses).1.in_place
    exact ⟨same, Buffer.fill_of_exhausted ((congrArg Buffer.source later_in_place).symm.trans still)⟩

/-- One byte and room for three are left. The interrupted read is tried again, the byte that came
before the failure is kept, and the byte behind the failure is never read. -/
theorem fill_reads_until_failed :
    let source : Source :=
      [.data 0x61 [0x62, 0x63, 0x64], .interrupted, .data 0x65 [], .failed .other, .data 0x66 []]
    let history := (start source 4).fill.consume 3
    1 ≤ 4 ∧ LeadsTo (start source 4) history ∧
      history.buffer.fill.reads =
        [⟨1, 3, .interrupted⟩, ⟨1, 3, .received [0x65]⟩, ⟨2, 2, .failed .other⟩] ∧
      history.buffer.fill.grew = true ∧ history.buffer.window <+: history.buffer.fill.buffer.window ∧
      history.buffer.fill.buffer.window = [0x64, 0x65] ∧ history.buffer.fill.buffer.source = none := by
  intro source history
  have reached : LeadsTo (start source 4) history :=
    .tail (.single (.fill _)) (.consume _ 3 (by decide))
  obtain ⟨_, grew_iff, grown, _⟩ :=
    fill_reads_until_full_or_ended source 4 (by decide) history reached
  have grew : history.buffer.fill.grew = true := grew_iff.mpr (by decide +kernel)
  exact ⟨by decide, reached, by decide +kernel, grew, (grown grew).1, by decide +kernel,
    by decide +kernel⟩

end History
end TextScan.Stream
