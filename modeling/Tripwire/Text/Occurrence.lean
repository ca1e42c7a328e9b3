/-
Whether one text occurs in another, character by character.
-/
namespace Tripwire.Text

/-- The pattern occurs somewhere in the text as an unbroken run of characters. -/
def occursIn (pattern : List Char) : List Char → Bool
  | [] => pattern.isEmpty
  | c :: rest => pattern.isPrefixOf (c :: rest) || occursIn pattern rest

/-- The empty pattern occurs in every text. -/
@[simp]
theorem occursIn_nil (text : List Char) : occursIn [] text = true := by
  cases text <;> simp [occursIn]

/-- A pattern occurs exactly in the texts that can be cut around it. -/
theorem occursIn_iff {pattern text : List Char} :
    occursIn pattern text = true ↔ ∃ before after, text = before ++ pattern ++ after := by
  induction text with
  | nil =>
      simp only [occursIn, List.isEmpty_iff]
      constructor
      · rintro rfl
        exact ⟨[], [], rfl⟩
      · rintro ⟨before, after, h⟩
        simp at h
        exact h.2.1
  | cons c rest ih =>
      simp only [occursIn, Bool.or_eq_true, List.isPrefixOf_iff_prefix, ih]
      constructor
      · rintro (⟨after, h⟩ | ⟨before, after, rfl⟩)
        · exact ⟨[], after, by simpa using h.symm⟩
        · exact ⟨c :: before, after, by simp⟩
      · rintro ⟨before, after, h⟩
        cases before with
        | nil => exact Or.inl ⟨after, by simpa using h.symm⟩
        | cons b before =>
            simp only [List.cons_append, List.cons.injEq] at h
            exact Or.inr ⟨before, after, h.2⟩

/-- What occurs in a pattern occurs wherever the pattern does. -/
theorem occursIn_trans {part pattern text : List Char} (h : occursIn part pattern = true)
    (h' : occursIn pattern text = true) : occursIn part text = true := by
  obtain ⟨before, after, rfl⟩ := occursIn_iff.mp h
  obtain ⟨before', after', rfl⟩ := occursIn_iff.mp h'
  exact occursIn_iff.mpr ⟨before' ++ before, after ++ after', by simp⟩

end Tripwire.Text
