import TextScan.Stream.Storage

/-! A drain, read by read. It is one read and what is drained after it, so that what holds of every
single read carries over to a whole drain. -/
namespace TextScan.Stream

def Outcome.bytes : Outcome → Bytes
  | .received bytes => bytes
  | .interrupted => []
  | .failed _ => []
  | .ended => []

def Read.bytes (read : Read) : Bytes :=
  read.outcome.bytes

namespace Source

theorem drainFrom_eq (capacity held : Nat) (received : Bytes) (reads : List Read)
    (source : Source) :
    source.drainFrom capacity held received reads =
      let drained := source.drain capacity held
      ⟨received.reverse ++ drained.received, drained.source, reads.reverse ++ drained.reads⟩ := by
  induction source generalizing held received reads with
  | nil =>
    rw [drain, drainFrom, drainFrom]
    split <;> simp
  | cons event source ih =>
    rw [drain, drainFrom, drainFrom]
    split
    · cases event with
      | data first rest =>
        dsimp only
        split
        · rw [ih, ih _ (_ ++ []) [_]]
          simp
        · simp
      | interrupted =>
        dsimp only
        rw [ih, ih _ [] [_]]
        simp
      | failed failure => simp
      | endOfData => simp
    · simp

theorem read_received_length_le {source left : Source} {room : Nat} {bytes : Bytes}
    (answers : source.read room = (.received bytes, left)) : bytes.length ≤ room := by
  cases source with
  | nil => cases answers
  | cons event source =>
    cases event with
    | data first rest =>
      cases answers
      exact List.length_take_le ..
    | interrupted => cases answers
    | failed failure => cases answers
    | endOfData => cases answers

theorem drain_full (capacity held : Nat) (source : Source) (full : ¬held < capacity) :
    source.drain capacity held = ⟨[], some source, []⟩ := by
  cases source <;> rw [drain, drainFrom, if_neg full] <;> rfl

/-- A drain is one read and the drain that goes on after it, unless that read was the last. -/
theorem drain_read (capacity held : Nat) (source : Source) (free : held < capacity) :
    source.drain capacity held =
      let issued : Read := ⟨held, capacity - held, (source.read (capacity - held)).1⟩
      let left := (source.read (capacity - held)).2
      match issued.outcome with
      | .received bytes =>
        let drained := left.drain capacity (held + bytes.length)
        ⟨bytes ++ drained.received, drained.source, issued :: drained.reads⟩
      | .interrupted =>
        let drained := left.drain capacity held
        ⟨drained.received, drained.source, issued :: drained.reads⟩
      | .failed _ => ⟨[], none, [issued]⟩
      | .ended => ⟨[], none, [issued]⟩ := by
  cases source with
  | nil => rw [drain, drainFrom, if_pos free]; rfl
  | cons event source =>
    rw [drain, drainFrom, if_pos free]
    cases event with
    | data first rest =>
      dsimp only [read]
      cases behind : (first :: rest).drop (capacity - held) with
      | nil =>
        rw [drainFrom_eq]
        simp
      | cons next left =>
        have more := congrArg List.length behind
        simp only [List.length_drop, List.length_cons] at more
        rw [drain_full _ _ _ (by simp only [List.length_take, List.length_cons]; omega)]
        simp
    | interrupted =>
      dsimp only [read]
      rw [drainFrom_eq]
      simp
    | failed failure => rfl
    | endOfData => rfl

/-- The recursion of a drain, read by read. -/
@[elab_as_elim]
theorem drain_induction (capacity : Nat) {motive : Nat → Source → Prop}
    (full : ∀ held source, ¬held < capacity → motive held source)
    (received : ∀ held source bytes left, held < capacity →
      source.read (capacity - held) = (.received bytes, left) →
      motive (held + bytes.length) left → motive held source)
    (interrupted : ∀ held source left, held < capacity →
      source.read (capacity - held) = (.interrupted, left) → motive held left → motive held source)
    (failed : ∀ held source failure left, held < capacity →
      source.read (capacity - held) = (.failed failure, left) → motive held source)
    (ended : ∀ held source left, held < capacity →
      source.read (capacity - held) = (.ended, left) → motive held source)
    (held : Nat) (source : Source) : motive held source := by
  by_cases free : held < capacity
  · have recurse (held : Nat) (left : Source) (less : left.weight < source.weight) :=
      drain_induction capacity full received interrupted failed ended held left
    have positive : 0 < capacity - held := Nat.sub_pos_of_lt free
    cases answers : source.read (capacity - held) with
    | mk outcome left =>
      have less := weight_read_lt positive answers
      cases outcome with
      | received bytes => exact received _ _ _ _ free answers (recurse _ left (less nofun))
      | interrupted => exact interrupted _ _ _ free answers (recurse _ left (less nofun))
      | failed failure => exact failed _ _ _ _ free answers
      | ended => exact ended _ _ _ free answers
  · exact full held source free
termination_by source.weight

/-- Draining never overfills the space, and stops short of its end only when the source does. -/
theorem drain_received (source : Source) (capacity held : Nat) (fits : held ≤ capacity) :
    held + (source.drain capacity held).received.length ≤ capacity ∧
      ((source.drain capacity held).source = none ∨
        held + (source.drain capacity held).received.length = capacity) := by
  induction held, source using drain_induction capacity with
  | full held source full =>
    rw [drain_full _ _ _ full]
    exact ⟨fits, .inr (Nat.le_antisymm fits (Nat.le_of_not_lt full))⟩
  | received held source bytes left free answers ih =>
    have short := read_received_length_le answers
    rw [drain_read _ _ _ free, answers]
    simp only [List.length_append, ← Nat.add_assoc]
    exact ih (by omega)
  | interrupted held source left free answers ih =>
    rw [drain_read _ _ _ free, answers]
    exact ih fits
  | failed held source failure left free answers =>
    rw [drain_read _ _ _ free, answers]
    exact ⟨fits, .inl rfl⟩
  | ended held source left free answers =>
    rw [drain_read _ _ _ free, answers]
    exact ⟨fits, .inl rfl⟩

theorem drain_reads (source : Source) (capacity held : Nat) :
    (source.drain capacity held).reads.flatMap Read.bytes =
      (source.drain capacity held).received := by
  induction held, source using drain_induction capacity with
  | full held source full => rw [drain_full _ _ _ full]; rfl
  | received held source bytes left free answers ih =>
    rw [drain_read _ _ _ free, answers]
    exact congrArg (bytes ++ ·) ih
  | interrupted held source left free answers ih =>
    rw [drain_read _ _ _ free, answers]
    exact ih
  | failed held source failure left free answers => rw [drain_read _ _ _ free, answers]; rfl
  | ended held source left free answers => rw [drain_read _ _ _ free, answers]; rfl

end Source

end TextScan.Stream
