import TextScan.Proofs.Guarded
import Mathlib.Order.Bounds.Defs

/-! Widening yields the least cover of a span by whole characters. No character has more than four bytes,
so that each of the two searches for a boundary ends after three steps at most. -/
namespace TextScan
namespace Utf8
variable {text bytes : Bytes} {owed : List Range} {offset : Nat}

theorem followers?_length_le {first : UInt8} (followers : followers? first = some owed) :
    owed.length ≤ 3 := by
  unfold followers? at followers
  split_ifs at followers <;> cases followers <;> decide

/-- Bytes that end a text contain all that is owed, and behind it starts a text. -/
theorem valid_drop_of_owedAfter? (run : owedAfter? owed bytes = some []) :
    owed.length ≤ bytes.length ∧ Valid (bytes.drop owed.length) := by
  induction owed generalizing bytes with
  | nil => exact ⟨Nat.zero_le _, (valid_iff bytes).mpr run⟩
  | cons range owed ih =>
    cases bytes with
    | nil => cases run
    | cons byte rest =>
      rw [owedAfter?] at run
      split at run
      · obtain ⟨enough, behind⟩ := ih run
        exact ⟨Nat.succ_le_succ enough, behind⟩
      · cases run

/-- From one boundary to the next is at most a character of four bytes. -/
theorem Valid.exists_next_boundary (valid : Valid text) (boundary : isBoundary text offset = true)
    (inside : offset < text.length) :
    ∃ next, isBoundary text next = true ∧ offset < next ∧ next ≤ offset + 4 := by
  have behind := valid.drop boundary
  rw [List.drop_eq_getElem_cons inside, valid_iff] at behind
  obtain ⟨owed, followers, run⟩ := Option.bind_eq_some_iff.mp behind
  obtain ⟨enough, next_text⟩ := valid_drop_of_owedAfter? run
  have few := followers?_length_le followers
  rw [List.length_drop] at enough
  rw [List.drop_drop] at next_text
  refine ⟨offset + 1 + owed.length, (valid.isBoundary_iff _).mpr ⟨?_, next_text⟩, ?_, ?_⟩ <;> omega

theorem isGreatest_boundaryBefore (text : Bytes) (offset : Nat) :
    IsGreatest {cut | isBoundary text cut = true ∧ cut ≤ offset} (boundaryBefore text offset) :=
  ⟨⟨isBoundary_boundaryBefore text offset, boundaryBefore_le text offset⟩,
    fun _ ⟨boundary, before⟩ => le_boundaryBefore boundary before⟩

theorem isLeast_boundaryAfter (inside : offset ≤ text.length) :
    IsLeast {cut | isBoundary text cut = true ∧ offset ≤ cut} (boundaryAfter text offset) :=
  ⟨⟨isBoundary_boundaryAfter text offset inside, le_boundaryAfter text offset⟩,
    fun _ ⟨boundary, behind⟩ => boundaryAfter_le_of_le boundary behind⟩

/-- An offset inside a character is at most three bytes behind the start of it. -/
theorem Valid.le_boundaryBefore_add_three (valid : Valid text) (inside : offset ≤ text.length) :
    offset ≤ boundaryBefore text offset + 3 := by
  by_contra far
  have boundary := isBoundary_boundaryBefore text offset
  obtain ⟨next, next_boundary, later, near⟩ := valid.exists_next_boundary boundary (by omega)
  have greatest := le_boundaryBefore next_boundary (by omega : next ≤ offset)
  omega

theorem Valid.boundaryAfter_le_add_three (valid : Valid text) (inside : offset ≤ text.length) :
    boundaryAfter text offset ≤ offset + 3 := by
  have boundary := isBoundary_boundaryBefore text offset
  have before := boundaryBefore_le text offset
  rcases before.lt_or_eq with within | same
  · obtain ⟨next, next_boundary, later, near⟩ := valid.exists_next_boundary boundary (by omega)
    -- A boundary behind the last one up to the offset is behind the offset as well.
    have passed : offset ≤ next := by
      by_contra short
      have greatest := le_boundaryBefore next_boundary (by omega : next ≤ offset)
      omega
    have least := boundaryAfter_le_of_le next_boundary passed
    omega
  · rw [same] at boundary
    rw [boundaryAfter_of_isBoundary boundary]
    exact Nat.le_add_right _ _

end Utf8

open Utf8 (Valid isBoundary boundaryBefore boundaryAfter)

namespace Guarded
variable {text : Bytes} {offset : Nat}

/-- Goes back to a boundary as retreating does, and counts the steps. -/
def retreatCounting (text : Bytes) : Nat → Except Fault (Nat × Nat)
  | 0 => if isBoundary text 0 then .ok (0, 0) else .error .beforeStart
  | offset + 1 =>
    if isBoundary text (offset + 1) then .ok (offset + 1, 0)
    else (retreatCounting text offset).map fun (found, steps) => (found, steps + 1)

/-- Goes on to a boundary as proceeding does, and counts the steps. -/
def proceedCounting (text : Bytes) (offset : Nat) : Except Fault (Nat × Nat) :=
  if isBoundary text offset then .ok (offset, 0)
  else if offset < text.length then
    (proceedCounting text (offset + 1)).map fun (found, steps) => (found, steps + 1)
  else .error (.behindEnd offset)
termination_by text.length - offset

theorem retreatCounting_fst (text : Bytes) (offset : Nat) :
    (retreatCounting text offset).map Prod.fst = retreat text offset := by
  induction offset with
  | zero =>
    rw [retreatCounting, retreat]
    split <;> rfl
  | succ offset ih =>
    rw [retreatCounting, retreat, ← ih]
    split
    · rfl
    · cases retreatCounting text offset <;> rfl

theorem proceedCounting_fst (text : Bytes) (offset : Nat) :
    (proceedCounting text offset).map Prod.fst = proceed text offset := by
  fun_induction proceed text offset with
  | case1 offset boundary =>
    rw [proceedCounting, if_pos boundary]
    rfl
  | case2 offset within before ih =>
    rw [proceedCounting, if_neg within, if_pos before, ← ih]
    cases proceedCounting text (offset + 1) <;> rfl
  | case3 offset within ends =>
    rw [proceedCounting, if_neg within, if_neg ends]
    rfl

theorem retreatCounting_eq (text : Bytes) (offset : Nat) :
    retreatCounting text offset =
      .ok (boundaryBefore text offset, offset - boundaryBefore text offset) := by
  induction offset with
  | zero => rw [retreatCounting, if_pos (Utf8.isBoundary_zero text), boundaryBefore]
  | succ offset ih =>
    have before := Utf8.boundaryBefore_le text offset
    rw [retreatCounting, boundaryBefore, ih]
    split
    · rw [Nat.sub_self]
    · rw [Nat.succ_sub before]
      rfl

theorem proceedCounting_eq (inside : offset ≤ text.length) :
    proceedCounting text offset =
      .ok (boundaryAfter text offset, boundaryAfter text offset - offset) := by
  fun_induction proceedCounting text offset with
  | case1 offset boundary => rw [Utf8.boundaryAfter_of_isBoundary boundary, Nat.sub_self]
  | case2 offset within before ih =>
    have passed := Utf8.le_boundaryAfter text (offset + 1)
    rw [ih before, ← boundaryAfter_succ before within]
    simp only [Except.map]
    congr 2
    omega
  | case3 offset within ends =>
    rw [Nat.le_antisymm inside (Nat.le_of_not_lt ends)] at within
    exact absurd (Utf8.isBoundary_length text) within

end Guarded

namespace Span
variable {text : Bytes} {span inner outer : Span}

/-- The span lies inside another one. -/
def Within (inner outer : Span) : Prop :=
  outer.start ≤ inner.start ∧ inner.stop ≤ outer.stop

/-- Both ends of the span are between characters of a text. -/
def CharAligned (span : Span) (text : Bytes) : Prop :=
  isBoundary text span.start = true ∧ isBoundary text span.stop = true

theorem within_widen (text : Bytes) (span : Span) : span.Within (span.widen text) :=
  ⟨Utf8.boundaryBefore_le text span.start, Utf8.le_boundaryAfter text span.stop⟩

theorem charAligned_widen (inside : span.stop ≤ text.length) : (span.widen text).CharAligned text :=
  ⟨Utf8.isBoundary_boundaryBefore text span.start, Utf8.isBoundary_boundaryAfter text span.stop inside⟩

theorem CharAligned.widen_eq (aligned : span.CharAligned text) : span.widen text = span := by
  rw [widen, Utf8.boundaryBefore_of_isBoundary aligned.1, Utf8.boundaryAfter_of_isBoundary aligned.2]

theorem CharAligned.widen_within (aligned : outer.CharAligned text) (within : span.Within outer) :
    (span.widen text).Within outer :=
  ⟨Utf8.le_boundaryBefore aligned.1 within.1, Utf8.boundaryAfter_le_of_le aligned.2 within.2⟩

theorem Within.trans {middle : Span} (first : inner.Within middle) (second : middle.Within outer) :
    inner.Within outer :=
  ⟨second.1.trans first.1, first.2.trans second.2⟩

/-- Of the spans of a text between characters, the widened span is the least that covers a span: it starts
at the greatest boundary up to the start and stops at the least boundary from the stop on. The two searches,
with their steps counted, reach each in at most three. Widening twice is widening once, a span inside another
is widened to a span inside the other's, and only a span between characters is left as it was. -/
theorem widen_least_cover (text : Bytes) (valid : Valid text) (span : Span)
    (inside : span.ValidFor text.length) :
    let wide := span.widen text
    (Guarded.widen text span = .ok wide ∧
      ((Guarded.retreatCounting text span.start).map Prod.fst = Guarded.retreat text span.start ∧
        ∃ steps ≤ 3, Guarded.retreatCounting text span.start = .ok (wide.start, steps)) ∧
      (Guarded.proceedCounting text span.stop).map Prod.fst = Guarded.proceed text span.stop ∧
        ∃ steps ≤ 3, Guarded.proceedCounting text span.stop = .ok (wide.stop, steps)) ∧
    (IsGreatest {cut | isBoundary text cut = true ∧ cut ≤ span.start} wide.start ∧
      IsLeast {cut | isBoundary text cut = true ∧ span.stop ≤ cut} wide.stop) ∧
    (wide.ValidFor text.length ∧ span.Within wide ∧ wide.CharAligned text) ∧
    (∀ cover : Span, cover.CharAligned text → span.Within cover → wide.Within cover) ∧
    wide.widen text = wide ∧
    (∀ outer : Span, outer.ValidFor text.length → span.Within outer → wide.Within (outer.widen text)) ∧
    (wide = span ↔ span.CharAligned text) := by
  intro wide
  have start_inside : span.start ≤ text.length := inside.1.trans inside.2
  have aligned : wide.CharAligned text := charAligned_widen inside.2
  have back := valid.le_boundaryBefore_add_three start_inside
  have onward := valid.boundaryAfter_le_add_three inside.2
  refine ⟨⟨Guarded.widen_eq inside,
      ⟨Guarded.retreatCounting_fst text span.start, _, ?_, Guarded.retreatCounting_eq text span.start⟩,
      Guarded.proceedCounting_fst text span.stop, _, ?_, Guarded.proceedCounting_eq inside.2⟩,
    ⟨Utf8.isGreatest_boundaryBefore text span.start, Utf8.isLeast_boundaryAfter inside.2⟩,
    ⟨inside.widen, within_widen text span, aligned⟩, fun _ => CharAligned.widen_within,
    aligned.widen_eq, fun outer outer_inside within => ?_, ?_⟩
  · exact Nat.sub_le_of_le_add (by omega)
  · exact Nat.sub_le_of_le_add (by omega)
  · exact (charAligned_widen outer_inside.2).widen_within (within.trans (within_widen text outer))
  · constructor
    · intro same
      rwa [same] at aligned
    · exact CharAligned.widen_eq

/-- A span from the last byte of one character of four bytes to the first of another, and two spans around it. -/
theorem widen_least_cover_of_two_characters :
    let text : Bytes := [0x61, 0xf0, 0x9f, 0x98, 0x80, 0xf0, 0x9f, 0x98, 0x81]
    let span : Span := ⟨4, 6⟩
    let wide : Span := ⟨1, 9⟩
    let cover : Span := ⟨0, 9⟩
    let outer : Span := ⟨3, 7⟩
    (Valid text ∧ span.ValidFor text.length ∧ cover.CharAligned text ∧ span.Within cover ∧
        outer.ValidFor text.length ∧ span.Within outer) ∧
      Guarded.widen text span = .ok wide ∧
      (∃ steps ≤ 3, Guarded.retreatCounting text 4 = .ok (1, steps)) ∧
      (∃ steps ≤ 3, Guarded.proceedCounting text 6 = .ok (9, steps)) ∧
      wide.Within cover ∧ wide.Within (outer.widen text) ∧ ¬span.CharAligned text := by
  intro text span wide cover outer
  have valid : Valid text := by decide
  have inside : span.ValidFor text.length := by decide
  have aligned : cover.CharAligned text := ⟨by decide, by decide⟩
  have covered : span.Within cover := ⟨by decide, by decide⟩
  have outer_inside : outer.ValidFor text.length := by decide
  have within : span.Within outer := ⟨by decide, by decide⟩
  have widened : span.widen text = wide := by decide
  obtain ⟨⟨run, ⟨-, back⟩, -, onward⟩, -, -, least, -, monotone, unchanged⟩ :=
    widen_least_cover text valid span inside
  rw [widened] at run back onward least monotone unchanged
  exact ⟨⟨valid, inside, aligned, covered, outer_inside, within⟩, run, back, onward,
    least cover aligned covered, monotone outer outer_inside within, mt unchanged.mpr (by decide)⟩

end Span
end TextScan
