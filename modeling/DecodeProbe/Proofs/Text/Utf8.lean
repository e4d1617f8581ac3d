import DecodeProbe.Text.Utf8
import Mathlib.Tactic.Ring
import Mathlib.Tactic.SplitIfs

/-!
# ASCII in decoded bytes

A byte below `80` is always a character of its own, in the middle of a broken
part too, and no such character comes from other bytes.  What a path shows of
ASCII is therefore what its bytes say.
-/

namespace DecodeProbe.Text.Utf8

/-! ## The characters that a beginning can still become -/

namespace Pending

def least (pending : Pending) : Nat :=
  (pending.bits * 64 + pending.low % 64) * 64 ^ pending.after

/-- One more than the greatest. -/
def bound (pending : Pending) : Nat :=
  (pending.bits * 64 + pending.high % 64 + 1) * 64 ^ pending.after

/-- Every character that can still come of it is a code point beyond ASCII. -/
structure Beyond (pending : Pending) : Prop where
  low : 0x80 ≤ pending.low
  high : pending.high ≤ 0xBF
  least : 0x80 ≤ pending.least
  valid : pending.bound ≤ 0xD800 ∨ 0xE000 ≤ pending.least ∧ pending.bound ≤ 0x110000

end Pending

theorem beyond_two {n : Nat} (hlead : 0xC2 ≤ n ∧ n < 0xE0) :
    Pending.Beyond ⟨n - 0xC0, 0, 0x80, 0xBF⟩ := by
  constructor <;> simp only [Pending.least, Pending.bound] <;> omega

theorem beyond_three {n : Nat} (hlead : 0xE0 ≤ n ∧ n < 0xF0) :
    Pending.Beyond ⟨n - 0xE0, 1, if n = 0xE0 then 0xA0 else 0x80,
      if n = 0xED then 0x9F else 0xBF⟩ := by
  constructor <;> simp only [Pending.least, Pending.bound] <;> split_ifs <;> omega

theorem beyond_four {n : Nat} (hlead : 0xF0 ≤ n ∧ n < 0xF5) :
    Pending.Beyond ⟨n - 0xF0, 2, if n = 0xF0 then 0x90 else 0x80,
      if n = 0xF4 then 0x8F else 0xBF⟩ := by
  constructor <;> simp only [Pending.least, Pending.bound] <;> split_ifs <;> omega

theorem first_cases (b : UInt8) :
    b.toNat < 0x80 ∧ first b = ([.char (Char.ofNat b.toNat)], none) ∨
    0x80 ≤ b.toNat ∧ first b = ([.broken], none) ∨
    0x80 ≤ b.toNat ∧ ∃ pending, first b = ([], some pending) ∧ pending.Beyond := by
  simp only [first]
  split
  case isTrue hascii => exact .inl ⟨hascii, rfl⟩
  rename_i hascii
  split
  case isTrue => exact .inr (.inl ⟨by omega, rfl⟩)
  split
  case isTrue => exact .inr (.inr ⟨by omega, _, rfl, beyond_two (by omega)⟩)
  split
  case isTrue => exact .inr (.inr ⟨by omega, _, rfl, beyond_three (by omega)⟩)
  split
  case isTrue => exact .inr (.inr ⟨by omega, _, rfl, beyond_four (by omega)⟩)
  exact .inr (.inl ⟨by omega, rfl⟩)

theorem beyond_first {b : UInt8} {pending : Pending} (hfirst : (first b).2 = some pending) :
    pending.Beyond := by
  obtain ⟨-, heq⟩ | ⟨-, heq⟩ | ⟨-, pending', heq, hbeyond⟩ := first_cases b
  · simp [heq] at hfirst
  · simp [heq] at hfirst
  · obtain rfl : pending' = pending := by simpa [heq] using hfirst
    exact hbeyond

theorem toNat_charOfNat {n : Nat} (hvalid : n.isValidChar) :
    (Char.ofNat n).toNat = n := by
  rw [Char.ofNat, dif_pos hvalid]
  rfl

section

variable {c : Char} {b : UInt8}

theorem char_mem_first (hascii : c.toNat < 0x80) : .char c ∈ (first b).1 ↔ b.toNat = c.toNat := by
  obtain ⟨hsmall, heq⟩ | ⟨hlarge, heq⟩ | ⟨hlarge, _, heq, _⟩ := first_cases b
  · have hvalue : (Char.ofNat b.toNat).toNat = b.toNat := toNat_charOfNat (.inl (by omega))
    simp only [heq, List.mem_singleton, Piece.char.injEq]
    constructor
    · rintro rfl
      exact hvalue.symm
    · intro hbyte
      rw [hbyte, Char.ofNat_toNat]
  · simp only [heq, List.mem_singleton, reduceCtorEq, false_iff]
    omega
  · simp only [heq, List.not_mem_nil, false_iff]
    omega

/-- The character that a last byte completes is beyond ASCII. -/
theorem Pending.Beyond.completed {pending : Pending} (hbeyond : pending.Beyond)
    (hlast : pending.after = 0) (hinside : pending.low ≤ b.toNat ∧ b.toNat ≤ pending.high) :
    0x80 ≤ (Char.ofNat (pending.bits * 64 + b.toNat % 64)).toNat := by
  obtain ⟨hlow, hhigh, hleast, hvalid⟩ := hbeyond
  simp only [Pending.least, Pending.bound, hlast, Nat.pow_zero, Nat.mul_one] at hleast hvalid
  rw [toNat_charOfNat]
  · omega
  · unfold Nat.isValidChar
    omega

/-- One more byte can only narrow what may come. -/
theorem Pending.least_le_continued {pending : Pending} {after : Nat}
    (hlow : 0x80 ≤ pending.low) (hhigh : pending.high ≤ 0xBF)
    (hmore : pending.after = after + 1)
    (hinside : pending.low ≤ b.toNat ∧ b.toNat ≤ pending.high) :
    pending.least ≤ Pending.least ⟨pending.bits * 64 + b.toNat % 64, after, 0x80, 0xBF⟩ := calc
  pending.least = (pending.bits * 64 + pending.low % 64) * 64 ^ (after + 1) := by
      rw [Pending.least, hmore]
  _ ≤ (pending.bits * 64 + b.toNat % 64) * 64 ^ (after + 1) :=
      Nat.mul_le_mul_right _ (by omega)
  _ = Pending.least ⟨pending.bits * 64 + b.toNat % 64, after, 0x80, 0xBF⟩ := by
      simp only [Pending.least]
      ring

theorem Pending.bound_continued_le {pending : Pending} {after : Nat}
    (hlow : 0x80 ≤ pending.low) (hhigh : pending.high ≤ 0xBF)
    (hmore : pending.after = after + 1)
    (hinside : pending.low ≤ b.toNat ∧ b.toNat ≤ pending.high) :
    Pending.bound ⟨pending.bits * 64 + b.toNat % 64, after, 0x80, 0xBF⟩ ≤ pending.bound := calc
  Pending.bound ⟨pending.bits * 64 + b.toNat % 64, after, 0x80, 0xBF⟩ =
      (pending.bits * 64 + b.toNat % 64 + 1) * 64 ^ (after + 1) := by
      simp only [Pending.bound]
      ring
  _ ≤ (pending.bits * 64 + pending.high % 64 + 1) * 64 ^ (after + 1) :=
      Nat.mul_le_mul_right _ (by omega)
  _ = pending.bound := by rw [Pending.bound, hmore]

theorem Pending.Beyond.continued {pending : Pending} {after : Nat} (hbeyond : pending.Beyond)
    (hmore : pending.after = after + 1)
    (hinside : pending.low ≤ b.toNat ∧ b.toNat ≤ pending.high) :
    Pending.Beyond ⟨pending.bits * 64 + b.toNat % 64, after, 0x80, 0xBF⟩ := by
  obtain ⟨hlow, hhigh, hleast, hvalid⟩ := hbeyond
  have hup := Pending.least_le_continued hlow hhigh hmore hinside
  have hdown := Pending.bound_continued_le hlow hhigh hmore hinside
  exact ⟨Nat.le_refl _, Nat.le_refl _, hleast.trans hup, by omega⟩

theorem beyond_next {state : Option Pending} {pending : Pending}
    (hstate : ∀ earlier ∈ state, earlier.Beyond) (hnext : (next state b).2 = some pending) :
    pending.Beyond := by
  cases state with
  | none => exact beyond_first hnext
  | some earlier =>
      have hearlier := hstate earlier rfl
      simp only [next] at hnext
      split at hnext
      · next hinside =>
        split at hnext
        · cases hnext
        · next hmore =>
          obtain rfl := Option.some.inj hnext
          exact hearlier.continued hmore hinside
      · exact beyond_first hnext

theorem char_mem_next {state : Option Pending} (hascii : c.toNat < 0x80)
    (hstate : ∀ earlier ∈ state, earlier.Beyond) :
    .char c ∈ (next state b).1 ↔ b.toNat = c.toNat := by
  cases state with
  | none => exact char_mem_first hascii
  | some earlier =>
      have hearlier := hstate earlier rfl
      simp only [next]
      split
      · next hinside =>
        have hbyte : b.toNat ≠ c.toNat := by
          have := hearlier.low
          omega
        split
        · next hlast =>
          have hcompleted := hearlier.completed hlast hinside
          simp only [List.mem_singleton, Piece.char.injEq, hbyte, iff_false]
          rintro rfl
          omega
        · simp [hbyte]
      · simpa using char_mem_first hascii

theorem char_mem_piecesFrom {state : Option Pending} (hascii : c.toNat < 0x80)
    (hstate : ∀ earlier ∈ state, earlier.Beyond) (input : Bytes) :
    .char c ∈ piecesFrom state input ↔ ∃ b ∈ input, b.toNat = c.toNat := by
  induction input generalizing state with
  | nil => cases state <;> simp [piecesFrom]
  | cons b rest ih =>
      have hlater := @ih (next state b).2 fun _ => beyond_next hstate
      rw [piecesFrom_cons, List.mem_append, char_mem_next hascii hstate, hlater]
      simp

end

/-- An ASCII character is shown exactly where its byte stands. -/
theorem ascii_mem_lossy {c : Char} (hascii : c.toNat < 0x80) (input : Bytes) :
    c ∈ lossy input ↔ UInt8.ofNat c.toNat ∈ input := by
  have hshown : ∀ piece : Piece, piece.shown = c ↔ piece = .char c := by
    intro piece
    cases piece with
    | char d => simp [Piece.shown]
    | broken =>
        simp only [Piece.shown, reduceCtorEq, iff_false]
        rintro rfl
        revert hascii
        decide
  have hbyte : ∀ b : UInt8, b.toNat = c.toNat ↔ b = UInt8.ofNat c.toNat := by
    intro b
    rw [← UInt8.toNat_inj, toNat_ofNat (by omega)]
  have hpieces := @char_mem_piecesFrom c none hascii (by simp) input
  simp only [lossy, pieces, List.mem_map, hshown, exists_eq_right,
    hpieces, hbyte]

end DecodeProbe.Text.Utf8
