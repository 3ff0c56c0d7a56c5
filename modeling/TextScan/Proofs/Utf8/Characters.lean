import TextScan.Proofs.Utf8.Boundary
import Mathlib.Data.List.SplitBy

/-! The characters of a text, each as its bytes. -/
namespace TextScan.Utf8
variable {text front rest character : Bytes}

/-- A text cut in front of each byte that does not continue a character. -/
def characters (text : Bytes) : List Bytes :=
  text.splitBy fun _ next => isContinuation next

/-- A text that is not empty and can be cut nowhere inside. -/
structure IsCharacter (bytes : Bytes) : Prop where
  nonempty : bytes ≠ []
  valid : Valid bytes
  whole : ∀ cut, isBoundary bytes cut = true → cut = 0 ∨ cut = bytes.length

theorem flatten_characters (text : Bytes) : (characters text).flatten = text :=
  List.flatten_splitBy _ text

theorem characters_append (front : Bytes) (valid : Valid rest) :
    characters (front ++ rest) = characters front ++ characters rest := by
  apply List.splitBy_append
  intro _ _ first starts
  obtain ⟨later, rfl⟩ := List.head?_eq_some_iff.mp starts
  exact valid.head

theorem characters_eq_nil_iff : characters text = [] ↔ text = [] :=
  List.splitBy_eq_nil

theorem mem_of_mem_characters (member : character ∈ characters text) {byte : UInt8}
    (inside : byte ∈ character) : byte ∈ text := by
  rw [← flatten_characters text]
  exact List.mem_flatten_of_mem member inside

theorem IsCharacter.characters_eq (single : IsCharacter character) :
    characters character = [character] := by
  apply List.splitBy_of_isChain single.nonempty
  rw [List.isChain_iff_getElem]
  intro place inside
  have within : isBoundary character (place + 1) ≠ true := by
    intro boundary
    have ends := single.whole (place + 1) boundary
    omega
  simpa [isBoundary, List.getElem?_eq_getElem inside] using within

theorem isBoundary_append_of_lt {cut : Nat} (inside : cut < front.length) (rest : Bytes) :
    isBoundary (front ++ rest) cut = isBoundary front cut := by
  rw [isBoundary, isBoundary, List.getElem?_append_left inside, List.getElem?_eq_getElem inside]

/-- A text that is not empty starts with a character, and behind it is a text. -/
theorem Valid.exists_character (valid : Valid text) (nonempty : text ≠ []) :
    ∃ first rest, text = first ++ rest ∧ IsCharacter first ∧ Valid rest := by
  have some := List.length_pos_iff.mpr nonempty
  have behind := le_boundaryAfter text 1
  have inside := boundaryAfter_le text 1 some
  have boundary := isBoundary_boundaryAfter text 1 some
  have length := List.length_take_of_le inside
  refine ⟨_, _, (List.take_append_drop (boundaryAfter text 1) text).symm,
    ⟨?_, valid.take boundary, ?_⟩, valid.drop boundary⟩
  · rw [← List.length_pos_iff, length]
    exact behind
  · intro cut within
    rcases Nat.lt_or_ge cut (text.take (boundaryAfter text 1)).length with before | reaches
    · rw [← isBoundary_append_of_lt before (text.drop (boundaryAfter text 1)),
        List.take_append_drop] at within
      by_contra inner
      have positive : 1 ≤ cut := by omega
      have least := boundaryAfter_le_of_le within positive
      omega
    · exact .inr (Nat.le_antisymm (le_length_of_isBoundary within) reaches)

/-- The characters of a text are characters. -/
theorem Valid.isCharacter (valid : Valid text) :
    ∀ character ∈ characters text, IsCharacter character := by
  induction same : text.length using Nat.strongRecOn generalizing text with
  | ind length ih =>
    by_cases empty : text = []
    · rw [empty]
      exact List.forall_mem_nil _
    · obtain ⟨first, rest, rfl, single, behind⟩ := valid.exists_character empty
      have some := List.length_pos_iff.mpr single.nonempty
      rw [List.length_append] at same
      rw [characters_append first behind, single.characters_eq]
      exact List.forall_mem_cons.mpr ⟨single, ih rest.length (by omega) behind rfl⟩

theorem exists_around (member : character ∈ characters text) :
    ∃ front rest, text = front ++ character ++ rest := by
  obtain ⟨before, after, split⟩ := List.append_of_mem member
  refine ⟨before.flatten, after.flatten, ?_⟩
  have whole := flatten_characters text
  rw [split, List.flatten_append, List.flatten_cons] at whole
  rw [← whole, List.append_assoc]

end TextScan.Utf8
