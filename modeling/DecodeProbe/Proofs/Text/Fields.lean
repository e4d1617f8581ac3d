import DecodeProbe.Text.Fields
import Mathlib.Data.List.Basic

/-!
# Cutting a text

A text is cut at its separators and nowhere else: a separator between two texts
separates their fields, and a text without one is a single field.
-/

namespace DecodeProbe.Text

variable {α : Type} [DecidableEq α] {separator : α}

theorem fields_append_cons (field rest : List α) :
    fields separator (field ++ separator :: rest) =
      fields separator field ++ fields separator rest := by
  induction field with
  | nil => simp [fields]
  | cons c field ih =>
      by_cases hsame : c = separator
      · simp [fields, hsame, ih]
      · cases hcut : fields separator field with
        | nil => exact absurd hcut (fields_ne_nil separator field)
        | cons first more => simp [fields, hsame, ih, hcut]

theorem length_fields (text : List α) :
    (fields separator text).length = text.count separator + 1 := by
  induction text with
  | nil => rfl
  | cons c text ih =>
      by_cases hsame : c = separator
      · simp [fields, hsame, ih]
      · cases hcut : fields separator text with
        | nil => exact absurd hcut (fields_ne_nil separator text)
        | cons first more =>
            rw [hcut] at ih
            simp [fields, hsame, hcut, ← ih]

theorem fields_of_notMem {text : List α} (hfree : separator ∉ text) :
    fields separator text = [text] := by
  have hjoin := intercalate_fields separator text
  have hlength : (fields separator text).length = 1 := by
    rw [length_fields, List.count_eq_zero_of_not_mem hfree]
  obtain ⟨only, hcut⟩ := List.length_eq_one_iff.mp hlength
  rw [hcut] at hjoin ⊢
  simpa [List.intercalate] using hjoin

end DecodeProbe.Text
