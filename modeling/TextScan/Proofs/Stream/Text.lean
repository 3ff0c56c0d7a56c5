import TextScan.Text
import TextScan.Proofs.Delimiter.Alignment
import TextScan.Proofs.Stream.Chunking

/-! Streams of text. A stream does not know about characters and never widens a delimiter, yet
for delimiters that are text themselves it has the tokens of the text that it delivers. -/
namespace TextScan.Stream.Tokens
open Utf8 (Valid)

/-- Streaming agrees with the walk over the text, byte for byte. -/
theorem steps_eq_text_tokens (delimiter : Delimiter) (textual : delimiter.Textual) (text : Bytes)
    (valid : Valid text) (source : Source) (delivers : source.delivered = text) (capacity : Nat)
    (positive : 1 ≤ capacity) :
    ((start (.ofSource source capacity)).steps delimiter.finder).map Step.passed =
      (Text.tokens delimiter.finder (.start text)).map Token.passed := by
  subst delivers
  rw [start_passed delimiter.finder delimiter.settling source capacity positive]
  exact congrArg _ (textual.charAligned.tokensOf_wholeChars valid).symm

/-- A character between two others that share its first byte, each cut by the pieces that the
source delivers. -/
theorem steps_eq_text_tokens_cut_characters :
    let source : Source :=
      [.data 0xc3 [], .interrupted, .data 0xaa [0xc3], .data 0xa9 [0xc3], .data 0xaa [],
        .failed .other]
    let text : Bytes := [0xc3, 0xaa, 0xc3, 0xa9, 0xc3, 0xaa]
    let delimiter : Delimiter := .sequence [0xc3, 0xa9]
    delimiter.Textual ∧ Valid text ∧ source.delivered = text ∧ 1 ≤ 1 ∧
      ((start (.ofSource source 1)).steps delimiter.finder).map Step.passed =
        (Text.tokens delimiter.finder (.start text)).map Token.passed := by
  have textual : (Delimiter.sequence [0xc3, 0xa9]).Textual :=
    show Valid [0xc3, 0xa9] by decide
  have valid : Valid [0xc3, 0xaa, 0xc3, 0xa9, 0xc3, 0xaa] := by decide
  exact ⟨textual, valid, rfl, Nat.le_refl 1,
    steps_eq_text_tokens _ textual _ valid _ rfl 1 (Nat.le_refl 1)⟩

end TextScan.Stream.Tokens
