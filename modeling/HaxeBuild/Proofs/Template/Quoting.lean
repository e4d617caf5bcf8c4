import HaxeBuild.Proofs.Text.JsonString
import HaxeBuild.Proofs.Text.Rejoining
import HaxeBuild.Template.Filter

namespace HaxeBuild

namespace Code

/-- A half of a pair is no character. -/
theorem exists_half {c : Code} (surrogate : 0xD800 ≤ c.val ∧ c.val < 0xE000) :
    ∃ offset, c = .half offset := by
  cases c with
  | half offset => exact ⟨offset, rfl⟩
  | char c =>
      have valid : c.toNat < 0xD800 ∨ 0xDFFF < c.toNat ∧ c.toNat < 0x110000 := c.valid
      simp only [val] at surrogate
      omega

end Code

namespace Text

/-- The quotes keep a quoted text from being trimmed, and its line ends are escaped. -/
theorem isArgument_quoted (t : Text) : Command.IsArgument t.quoted := by
  apply Command.isArgument_iff.mpr
  refine ⟨by simp [quoted, ofString], ?_, ?_, ?_⟩
  · show ∀ c ∈ some (Code.char '"'), c.isBlank = false
    decide
  · have last : t.quoted.getLast? = some (.char '"') := List.getLast?_concat
    rw [last]
    decide
  · intro c among
    have printable := printable_of_mem_quoted among
    simp [Code.endsLine]
    omega

/-- A text without halves has no pair of them. -/
theorem isChain_of_whole {t : Text} (whole : ∀ offset, Code.half offset ∉ t) :
    t.IsChain fun c d => ¬ JsonString.IsPair c d := by
  apply List.Pairwise.isChain
  apply List.pairwise_of_forall_mem_list
  intro c among d _ pair
  obtain ⟨offset, rfl⟩ := Code.exists_half (c := c) (by unfold JsonString.IsPair at pair; omega)
  exact whole offset among

end Text

namespace Template.Filter

/-- A quoted value is one argument of printable characters between double quotes. It is read as the
text of the value, unless this has a high half right before a low half. -/
theorem quote_value (v : Value) :
    let q := v.toText.quoted
    (find? "quote").map (fun filter => filter ⟨[v], []⟩) = some (.ok (.text q)) ∧
      (∀ c ∈ q, 32 ≤ c.val ∧ c.val ≤ 126) ∧
      (∃ body : Text, q = "\"" ++ body ++ "\"") ∧
      ((∀ offset, Code.half offset ∉ v.toText) → JsonString.read? q = some v.toText) ∧
      (JsonString.read? q = some v.toText ↔
        v.toText.IsChain fun c d => ¬ JsonString.IsPair c d) ∧
      Command.split q = [q] := by
  intro q
  refine ⟨rfl, fun _ => Text.printable_of_mem_quoted, ⟨_, rfl⟩, ?_, ?_, ?_⟩
  · intro whole
    exact JsonString.read?_quoted_eq_self_iff.mpr (Text.isChain_of_whole whole)
  · exact JsonString.read?_quoted_eq_self_iff
  · exact Command.split_eq_self_iff.mpr v.toText.isArgument_quoted

/-- A text with a quote, a backslash, three line ends, a character that ASCII does not print, and one
beyond the basic plane. -/
def awkward : Text := "\"\\\r\n\u2028\x7f𝒳"

theorem quote_value_awkward :
    (∀ offset, Code.half offset ∉ Value.toText (.text awkward)) ∧
      awkward.quoted = Text.ofString "\"\\\"\\\\\\r\\n\\u2028\\u007f\\ud835\\udcb3\"" ∧
      JsonString.read? awkward.quoted = some awkward := by
  have whole : ∀ offset, Code.half offset ∉ Value.toText (.text awkward) := by
    simp [awkward, Text.ofString]
  obtain ⟨-, -, -, read, -⟩ := quote_value (.text awkward)
  exact ⟨whole, by decide +kernel, read whole⟩

end Template.Filter

end HaxeBuild
