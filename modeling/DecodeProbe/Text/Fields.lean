/-!
# Separated fields

A text cut at each occurrence of a separator.  There is always one field more
than there are separators, so cutting loses nothing.
-/

namespace DecodeProbe.Text

variable {α : Type} [DecidableEq α]

def fields (separator : α) : List α → List (List α)
  | [] => [[]]
  | c :: rest =>
      if c = separator then [] :: fields separator rest
      else
        match fields separator rest with
        | [] => [[c]]
        | field :: more => (c :: field) :: more

theorem fields_ne_nil (separator : α) (text : List α) : fields separator text ≠ [] := by
  induction text with
  | nil => simp [fields]
  | cons c rest _ =>
      by_cases hsame : c = separator
      · simp [fields, hsame]
      · simp only [fields, if_neg hsame]
        split <;> simp

theorem intercalate_fields (separator : α) (text : List α) :
    [separator].intercalate (fields separator text) = text := by
  induction text with
  | nil => rfl
  | cons c rest ih =>
      by_cases hsame : c = separator
      · subst hsame
        cases hcut : fields c rest with
        | nil => exact absurd hcut (fields_ne_nil c rest)
        | cons field more => simp_all [fields, List.intercalate]
      · cases hcut : fields separator rest with
        | nil => exact absurd hcut (fields_ne_nil separator rest)
        | cons field more =>
            rw [hcut] at ih
            simp only [fields, if_neg hsame, hcut]
            cases more <;> simp_all [List.intercalate]

end DecodeProbe.Text
