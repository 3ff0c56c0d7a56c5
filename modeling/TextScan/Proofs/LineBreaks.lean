import TextScan.Proofs.Delimiter.Alignment
import TextScan.Proofs.Positions
import TextScan.Proofs.Reassembly

/-! Splitting a text into lines. The lines are those of the same text with all its line breaks written
alike, whatever mixture of them it has. -/
namespace TextScan
open Utf8 (Valid)

namespace Text

/-- The text with each line break written as a line feed: a carriage return together with its line
feed, and one that stands alone. -/
def withLineFeeds : Bytes → Bytes
  | [] => []
  | 0x0d :: 0x0a :: rest => 0x0a :: withLineFeeds rest
  | byte :: rest => (if byte = 0x0d then 0x0a else byte) :: withLineFeeds rest

variable {front rest : Bytes}

theorem withLineFeeds_plain {byte : UInt8} (plain : byte ≠ 0x0d) (rest : Bytes) :
    withLineFeeds (byte :: rest) = byte :: withLineFeeds rest := by
  rw [withLineFeeds, if_neg plain]
  rintro _ rfl rfl
  exact plain rfl

theorem withLineFeeds_alone (alone : rest.head? ≠ some 0x0a) :
    withLineFeeds (0x0d :: rest) = 0x0a :: withLineFeeds rest := by
  rw [withLineFeeds, if_pos rfl]
  rintro _ _ rfl
  exact alone rfl

theorem withLineFeeds_append (plain : ∀ byte ∈ front, byte ≠ 0x0d) (rest : Bytes) :
    withLineFeeds (front ++ rest) = front ++ withLineFeeds rest := by
  induction front with
  | nil => rfl
  | cons byte front ih =>
    obtain ⟨first, later⟩ := List.forall_mem_cons.mp plain
    rw [List.cons_append, withLineFeeds_plain first, ih later, List.cons_append]

theorem withLineFeeds_self (plain : ∀ byte ∈ front, byte ≠ 0x0d) : withLineFeeds front = front := by
  have whole := withLineFeeds_append plain []
  rwa [List.append_nil, withLineFeeds, List.append_nil] at whole

end Text

namespace Delimiter
open Text (withLineFeeds)
variable {front lineEnd rest : Bytes}

/-- What a search for line breaks finds, said of the text with line feeds as well. -/
theorem lineBreak_cases (window : Bytes) :
    (lineBreak.find window = .notFound window.length ∧ 0x0d ∉ window ∧ 0x0a ∉ window ∧
        withLineFeeds window = window) ∨
      ∃ front lineEnd rest, window = front ++ lineEnd ++ rest ∧ 0x0d ∉ front ∧ 0x0a ∉ front ∧
        lineEnd ≠ [] ∧ Valid lineEnd ∧ (lineEnd = [0x0a] ∨ lineEnd = [0x0d, 0x0a] ∨
          lineEnd = [0x0d] ∧ rest.head? ≠ some 0x0a) ∧
        withLineFeeds window = front ++ 0x0a :: withLineFeeds rest ∧
        lineBreak.find window = ⟨front.length, front.length + lineEnd.length⟩ := by
  have apart {bytes : Bytes} (plain : ∀ byte ∈ bytes, ¬(byte = 0x0d ∨ byte = 0x0a)) :
      (∀ byte ∈ bytes, byte ≠ 0x0d) ∧ 0x0d ∉ bytes ∧ 0x0a ∉ bytes :=
    ⟨fun byte member same => plain byte member (.inl same), fun member => plain _ member (.inl rfl),
      fun member => plain _ member (.inr rfl)⟩
  rcases findLineBreak_cases window with
    ⟨none, plain⟩ | ⟨front, lineEnd, rest, rfl, plain, nonempty, kind, found⟩
  · obtain ⟨unchanged, noReturn, noFeed⟩ := apart plain
    exact .inl ⟨none, noReturn, noFeed, Text.withLineFeeds_self unchanged⟩
  · obtain ⟨unchanged, noReturn, noFeed⟩ := apart plain
    refine .inr ⟨front, lineEnd, rest, rfl, noReturn, noFeed, nonempty, ?_, ?_, ?_, found⟩
    · rcases kind with rfl | rfl | ⟨rfl, _⟩ <;> decide
    · rcases kind with pair | feed | alone
      · exact .inr (.inl pair)
      · exact .inl feed
      · exact .inr (.inr alone)
    · rw [List.append_assoc, Text.withLineFeeds_append unchanged]
      rcases kind with rfl | rfl | ⟨rfl, alone⟩
      · rfl
      · rfl
      · exact congrArg (front ++ ·) (Text.withLineFeeds_alone alone)

/-- A carriage return is a character of its own, so a text stays a text. -/
theorem valid_withLineFeeds {text : Bytes} (valid : Valid text) : Valid (withLineFeeds text) := by
  induction text using Walk.cut_induction with
  | step text later =>
    rcases lineBreak_cases text with
      ⟨_, _, _, same⟩ | ⟨front, lineEnd, rest, rfl, _, _, nonempty, ascii, _, broken, _⟩
    · rwa [same]
    · obtain ⟨before, behind⟩ := valid.around_infix nonempty ascii
      have feed : Valid [0x0a] := by decide
      rw [broken, before.append_iff, ← List.singleton_append, feed.append_iff]
      exact later front lineEnd rest rfl nonempty behind

/-- To split at line ends is to put a line feed for each of them and to split at those. -/
theorem split_lineBreak_eq_splitOn (text : Bytes) :
    Walk.split lineBreak.finder text = (withLineFeeds text).splitOn 0x0a := by
  induction text using Walk.cut_induction with
  | step text later =>
    rcases lineBreak_cases text with
      ⟨none, _, noFeed, same⟩ | ⟨front, lineEnd, rest, rfl, _, noFeed, nonempty, _, _, broken, found⟩
    · rw [Walk.split_notFound none, same, List.splitOn_eq_singleton noFeed]
    · rw [Walk.split_found found nonempty, later front lineEnd rest rfl nonempty, broken,
        List.splitOn_append_cons_self_of_not_mem noFeed]

theorem split_oneByte_eq_splitOn (value : UInt8) (window : Bytes) :
    Walk.split (oneByte value).finder window = window.splitOn value := by
  induction window using Walk.cut_induction with
  | step window later =>
    rcases findByte_cases value window with ⟨none, free⟩ | ⟨front, rest, split, free, found⟩
    · rw [Walk.split_notFound none, List.splitOn_eq_singleton free]
    · rw [← List.singleton_append, ← List.append_assoc] at split
      subst split
      rw [Walk.split_found found (List.cons_ne_nil _ _), later front [value] rest rfl (List.cons_ne_nil _ _),
        List.append_assoc, List.singleton_append, List.splitOn_append_cons_self_of_not_mem free]

theorem split_lineBreak_plain (text : Bytes) :
    ∀ piece ∈ Walk.split lineBreak.finder text, 0x0d ∉ piece ∧ 0x0a ∉ piece := by
  induction text using Walk.cut_induction with
  | step text later =>
    rcases lineBreak_cases text with
      ⟨none, noReturn, noFeed, _⟩ |
        ⟨front, lineEnd, rest, rfl, noReturn, noFeed, nonempty, _, _, _, found⟩
    · rw [Walk.split_notFound none]
      exact List.forall_mem_singleton.mpr ⟨noReturn, noFeed⟩
    · rw [Walk.split_found found nonempty]
      exact List.forall_mem_cons.mpr ⟨⟨noReturn, noFeed⟩, later front lineEnd rest rfl nonempty⟩

/-- What is cut out of a text between its lines, with what follows it in the text. -/
theorem lineBreak_of_mem_tokensOf (text : Bytes) :
    ∀ token ∈ Walk.tokensOf lineBreak.finder text, token.delimiter ≠ [] →
      (∃ before, text = before ++ token.delimiter ++ token.remainder) ∧
        (token.delimiter = [0x0a] ∨ token.delimiter = [0x0d, 0x0a] ∨
          token.delimiter = [0x0d] ∧ token.remainder.head? ≠ some 0x0a) := by
  intro token member some
  obtain ⟨passed, split⟩ := Walk.suffix_of_mem_tokensOf lineBreak.finder text token member
  have token_eq := Walk.eq_token_of_mem_tokensOf lineBreak.finder text token member
  generalize token.window = window at split token_eq
  subst token_eq
  rcases lineBreak_cases window with
    ⟨none, _⟩ | ⟨front, lineEnd, rest, rfl, _, _, _, _, kind, _, found⟩
  · have span_eq : lineBreak.finder.find window = .notFound window.length := none
    exact absurd (Finder.delimiter_of_notFound span_eq) some
  · have span_eq : lineBreak.finder.find (front ++ lineEnd ++ rest) = _ := found
    obtain ⟨_, delimiter, remainder⟩ := Finder.token_found span_eq
    rw [delimiter, remainder]
    refine ⟨⟨passed ++ front, ?_⟩, kind⟩
    rw [← split]
    simp only [List.append_assoc]

end Delimiter

namespace Text
open Delimiter

/-- The lines of a text do not depend on how it breaks them. They are the pieces between the line feeds
of the text with all its breaks written as line feeds, and joined with line feeds they are that text. No
line has a carriage return or a line feed. What is cut out is a line feed, one with a carriage return in
front of it, or a carriage return that no line feed follows. -/
theorem lines_ignore_convention (text : Bytes) (valid : Valid text) :
    let lines := split lineBreak.finder text
    lines = split (oneByte 0x0a).finder (withLineFeeds text) ∧
      [0x0a].intercalate lines = withLineFeeds text ∧
      (∀ line ∈ lines, 0x0d ∉ line ∧ 0x0a ∉ line) ∧
      ∀ token ∈ tokens lineBreak.finder (.start text), token.delimiter ≠ [] →
        (∃ before, text = before ++ token.delimiter ++ token.remainder) ∧
          (token.delimiter = [0x0a] ∨ token.delimiter = [0x0d, 0x0a] ∨
            token.delimiter = [0x0d] ∧ token.remainder.head? ≠ some 0x0a) := by
  intro lines
  have aligned : lineBreak.finder.CharAligned := Textual.charAligned trivial
  have ascii : (0x0a : UInt8) < 0x80 := by decide
  have byFeeds : (oneByte 0x0a).finder.CharAligned := Textual.charAligned ascii
  have bytewise : lines = Walk.split lineBreak.finder text := aligned.split_wholeChars valid
  have bytewiseTokens : tokens lineBreak.finder (.start text) = Walk.tokensOf lineBreak.finder text :=
    aligned.tokensOf_wholeChars valid
  refine ⟨?_, ?_, ?_, ?_⟩
  · rw [bytewise, split_lineBreak_eq_splitOn, split, byFeeds.split_wholeChars (valid_withLineFeeds valid),
      split_oneByte_eq_splitOn]
  · rw [bytewise, split_lineBreak_eq_splitOn]
    exact List.intercalate_splitOn 0x0a
  · rw [bytewise]
    exact split_lineBreak_plain text
  · rw [bytewiseTokens]
    exact lineBreak_of_mem_tokensOf text

/-- Two carriage returns, the second with its line feed, then a line feed with a carriage return behind
it, which is alone, and one more at the very end. -/
theorem lines_ignore_convention_of_mixture :
    let text : Bytes := [0x61, 0x0d, 0x0d, 0x0a, 0xc3, 0xa9, 0x0a, 0x0d, 0x62, 0x0d]
    let first : Token := ⟨text, ⟨1, 2⟩⟩
    (Valid text ∧ first ∈ tokens lineBreak.finder (.start text) ∧ first.delimiter ≠ []) ∧
      split lineBreak.finder text = split (oneByte 0x0a).finder (withLineFeeds text) ∧
      [0x0a].intercalate (split lineBreak.finder text) =
        [0x61, 0x0a, 0x0a, 0xc3, 0xa9, 0x0a, 0x0a, 0x62, 0x0a] ∧
      (first.delimiter = [0x0a] ∨ first.delimiter = [0x0d, 0x0a] ∨
        first.delimiter = [0x0d] ∧ first.remainder.head? ≠ some 0x0a) := by
  intro text first
  have valid : Valid text := by decide
  have member : first ∈ tokens lineBreak.finder (.start text) := by decide +kernel
  have some : first.delimiter ≠ [] := by decide
  obtain ⟨same, joined, _, breaks⟩ := lines_ignore_convention text valid
  exact ⟨⟨valid, member, some⟩, same, joined.trans (by decide), (breaks first member some).2⟩

end Text
end TextScan
