import DecodeProbe.Text.Blank

/-!
# Trimmed texts

A trimmed text has no blank at either end, and trimming changes nothing else.
-/

namespace DecodeProbe.Text

structure Trimmed (text : List Char) : Prop where
  first : ∀ c ∈ text.head?, isBlank c = false
  last : ∀ c ∈ text.getLast?, isBlank c = false

variable {text : List Char}

theorem dropWhile_isBlank_eq_self (hfirst : ∀ c ∈ text.head?, isBlank c = false) :
    text.dropWhile isBlank = text := by
  cases text with
  | nil => rfl
  | cons c rest => rw [List.dropWhile_cons_of_neg (by simp [hfirst c rfl])]

theorem isBlank_of_head?_dropWhile {c : Char} (hhead : c ∈ (text.dropWhile isBlank).head?) :
    isBlank c = false := by
  have hnot := List.head?_dropWhile_not isBlank text
  rwa [hhead] at hnot

theorem trim_of_trimmed (htrimmed : Trimmed text) : trim text = text := by
  have hlast : ∀ c ∈ text.reverse.head?, isBlank c = false := by
    rw [List.head?_reverse]
    exact htrimmed.last
  rw [trim, dropWhile_isBlank_eq_self htrimmed.first, dropWhile_isBlank_eq_self hlast,
    List.reverse_reverse]

/-- What is left of a text after its blanks at the front is cut at the back only. -/
theorem trim_prefix_dropWhile (text : List Char) : trim text <+: text.dropWhile isBlank := by
  rw [trim, ← List.reverse_suffix, List.reverse_reverse]
  exact List.dropWhile_suffix isBlank

theorem trimmed_trim (text : List Char) : Trimmed (trim text) where
  first := by
    intro c hhead
    obtain ⟨cut, hcut⟩ := trim_prefix_dropWhile text
    have hkept : c ∈ (text.dropWhile isBlank).head? := by
      rw [← hcut, List.head?_append, hhead]
      rfl
    exact isBlank_of_head?_dropWhile hkept
  last := by
    intro c hlast
    rw [trim, List.getLast?_reverse] at hlast
    exact isBlank_of_head?_dropWhile hlast

theorem trimmed_iff : Trimmed text ↔ trim text = text where
  mp := trim_of_trimmed
  mpr htrim := htrim ▸ trimmed_trim text

instance : Decidable (Trimmed text) :=
  decidable_of_iff (trim text = text) trimmed_iff.symm

theorem mem_of_mem_trim {c : Char} (hmem : c ∈ trim text) : c ∈ text :=
  (List.dropWhile_suffix isBlank).subset ((trim_prefix_dropWhile text).subset hmem)

end DecodeProbe.Text
