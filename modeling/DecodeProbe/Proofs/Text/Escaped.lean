import DecodeProbe.Proofs.Text.Utf8
import DecodeProbe.Text.Escaped

/-!
# Size of escaped bytes

An escaped byte is one to four printable ASCII characters, and a byte beyond ASCII
is always four.
-/

namespace DecodeProbe.Text.Escaped

open DecodeProbe.Text.Utf8 (Bytes)

def Printable (c : Char) : Prop := ' ' ≤ c ∧ c ≤ '~'

instance (c : Char) : Decidable (Printable c) := inferInstanceAs (Decidable (' ' ≤ c ∧ c ≤ '~'))

theorem escapeByte_cases (b : UInt8) :
    (∃ letter, (b, letter) ∈ letters ∧ escapeByte b = ['\\', letter]) ∨
    (0x20 ≤ b.toNat ∧ b.toNat ≤ 0x7E ∧ escapeByte b = [Char.ofNat b.toNat]) ∨
    escapeByte b = ['\\', 'x', Nat.digitChar (b.toNat / 16), Nat.digitChar (b.toNat % 16)] := by
  unfold escapeByte
  split
  · next letter hfound =>
    obtain ⟨before, after, hletters, -⟩ := List.lookup_eq_some_iff.mp hfound
    exact .inl ⟨letter, by simp [hletters], rfl⟩
  · split_ifs with hplain
    · exact .inr (.inl ⟨hplain.1, hplain.2, rfl⟩)
    · exact .inr (.inr rfl)

theorem printable_digitChar : ∀ n < 16, Printable (Nat.digitChar n) := by decide

theorem printable_of_mem_escapeByte {b : UInt8} {c : Char} (hmem : c ∈ escapeByte b) :
    Printable c := by
  obtain ⟨letter, hletter, heq⟩ | ⟨hlow, hhigh, heq⟩ | heq := escapeByte_cases b
  · have hletters : ∀ entry ∈ letters, Printable entry.2 := by decide
    rw [heq] at hmem
    simp only [List.mem_cons, List.not_mem_nil, or_false] at hmem
    rcases hmem with rfl | rfl
    · decide
    · exact hletters _ hletter
  · have hvalue := Utf8.toNat_charOfNat (n := b.toNat) (.inl (by omega))
    rw [heq, List.mem_singleton] at hmem
    subst hmem
    change 0x20 ≤ (Char.ofNat b.toNat).toNat ∧ (Char.ofNat b.toNat).toNat ≤ 0x7E
    rw [hvalue]
    exact ⟨hlow, hhigh⟩
  · have hsmall := b.toNat_lt
    rw [heq] at hmem
    simp only [List.mem_cons, List.not_mem_nil, or_false] at hmem
    rcases hmem with rfl | rfl | rfl | rfl
    · decide
    · decide
    · exact printable_digitChar _ (by omega)
    · exact printable_digitChar _ (by omega)

theorem length_escapeByte (b : UInt8) :
    1 ≤ (escapeByte b).length ∧ (escapeByte b).length ≤ 4 := by
  obtain ⟨letter, -, heq⟩ | ⟨-, -, heq⟩ | heq := escapeByte_cases b <;> simp [heq]

theorem length_escapeByte_of_high {b : UInt8} (hhigh : 0x80 ≤ b.toNat) :
    (escapeByte b).length = 4 := by
  obtain ⟨letter, hletter, heq⟩ | ⟨-, hlow, -⟩ | heq := escapeByte_cases b
  · have hletters : ∀ entry ∈ letters, entry.1.toNat < 0x80 := by decide
    have hlow : b.toNat < 0x80 := hletters _ hletter
    omega
  · omega
  · simp [heq]

theorem printable_of_mem_escape {input : Bytes} {c : Char} (hmem : c ∈ escape input) :
    Printable c := by
  obtain ⟨b, -, hbyte⟩ := List.mem_flatMap.mp hmem
  exact printable_of_mem_escapeByte hbyte

theorem length_escape_le (input : Bytes) : (escape input).length ≤ 4 * input.length := by
  induction input with
  | nil => simp [escape]
  | cons b input ih =>
      have hbyte := (length_escapeByte b).2
      simp only [escape, List.flatMap_cons, List.length_append, List.length_cons] at ih ⊢
      omega

theorem le_length_escape (input : Bytes) : input.length ≤ (escape input).length := by
  induction input with
  | nil => simp
  | cons b input ih =>
      have hbyte := (length_escapeByte b).1
      simp only [escape, List.flatMap_cons, List.length_append, List.length_cons] at ih ⊢
      omega

theorem le_length_escape_of_high {input : Bytes} {b : UInt8} (hmem : b ∈ input)
    (hhigh : 0x80 ≤ b.toNat) : input.length + 3 ≤ (escape input).length := by
  obtain ⟨before, after, rfl⟩ := List.append_of_mem hmem
  have hbefore := le_length_escape before
  have hafter := le_length_escape after
  have hbyte := length_escapeByte_of_high hhigh
  simp only [escape, List.flatMap_append, List.flatMap_cons, List.length_append,
    List.length_cons] at hbefore hafter ⊢
  omega

end DecodeProbe.Text.Escaped
