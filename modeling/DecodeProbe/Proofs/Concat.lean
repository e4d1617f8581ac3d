import Mathlib.Data.List.Induction

/-!
# One more entry

Histories grow at their end.  An entry of a grown history is the new one, with nothing
after it, or an old one, with the new one last of all that come after it.
-/

namespace DecodeProbe

variable {α β : Type}

theorem concat_eq_append_cons_iff {items before after : List α} {last item : α} :
    items ++ [last] = before ++ item :: after ↔
      (items = before ∧ last = item ∧ after = []) ∨
        ∃ between, items = before ++ item :: between ∧ after = between ++ [last] := by
  constructor
  · intro heq
    cases after using List.reverseRecOn with
    | nil =>
        obtain ⟨hitems, hlast⟩ := List.append_inj' heq rfl
        exact .inl ⟨hitems, List.singleton_inj.mp hlast, rfl⟩
    | append_singleton between newest _ =>
        have hsplit : items ++ [last] = (before ++ item :: between) ++ [newest] := by
          rw [heq, List.append_assoc, List.cons_append]
        obtain ⟨hitems, hlast⟩ := List.append_inj' hsplit rfl
        exact .inr ⟨between, hitems, by rw [hlast]⟩
  · rintro (⟨rfl, rfl, rfl⟩ | ⟨between, rfl, rfl⟩)
    · rfl
    · rw [List.append_assoc, List.cons_append]

theorem filterMap_concat (f : α → Option β) (items : List α) (last : α) :
    (items ++ [last]).filterMap f = items.filterMap f ++ (f last).toList := by
  rw [List.filterMap_append]
  cases hlast : f last <;> simp [hlast]

end DecodeProbe
