import DecodeProbe.Text.Numeral
import Mathlib.Data.List.Basic

/-!
# Decimal numerals

A numeral can be read back as its number, has no zero before another digit and holds
nothing but digits, so it can stand next to any other character.
-/

namespace DecodeProbe.Text

/-- The text is the number in decimal, written without leading zeros. -/
structure IsNumeral (text : List Char) (n : Nat) : Prop where
  reads : readDecimal? text = some n
  leading : text.head? = some '0' → text = ['0']

theorem head?_decimalDigits_of_pos {n : Nat} (hpos : 0 < n) :
    (decimalDigits n).head? ≠ some '0' := by
  induction n using Nat.strongRecOn with
  | ind n ih =>
      by_cases hdigit : n < 10
      · rw [decimalDigits, Nat.toDigits_of_lt_base hdigit, List.head?_singleton, ne_eq,
          Option.some.injEq, Nat.digitChar_eq_zero]
        omega
      · have hcut : decimalDigits n = decimalDigits (n / 10) ++ [(n % 10).digitChar] := by
          rw [decimalDigits, Nat.toDigits_eq_if (by omega), if_neg hdigit, decimalDigits]
        rw [hcut, List.head?_append_of_ne_nil _ (decimalDigits_ne_nil (n / 10))]
        exact ih (n / 10) (by omega) (by omega)

theorem isNumeral_decimalDigits (n : Nat) : IsNumeral (decimalDigits n) n where
  reads := readDecimal?_decimalDigits n
  leading hhead := by
    cases n with
    | zero => rfl
    | succ n => exact absurd hhead (head?_decimalDigits_of_pos n.succ_pos)

theorem decimalDigits_inj {m n : Nat} : decimalDigits m = decimalDigits n ↔ m = n := by
  rw [← decimal_inj, decimal, decimal, String.ofList_inj]

theorem notMem_decimalDigits {c : Char} (hc : c.isDigit = false) (n : Nat) :
    c ∉ decimalDigits n := by
  intro hmem
  have hdigit := List.all_eq_true.mp (all_isDigit_decimalDigits n) c hmem
  exact Bool.false_ne_true (hc.symm.trans hdigit)

end DecodeProbe.Text
