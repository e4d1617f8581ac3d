/-!
# Numerals

Whole numbers are written in decimal without leading zeros, negative ones with
a minus sign, and words of hardware in lower-case hexadecimal after `0x`.
-/

namespace DecodeProbe.Text

def decimalDigits (n : Nat) : List Char := Nat.toDigits 10 n

def decimal (n : Nat) : String := String.ofList (decimalDigits n)

def signedDecimal : Int → String
  | .ofNat n => decimal n
  | .negSucc n => "-" ++ decimal (n + 1)

def hexadecimal (n : Nat) : String := "0x" ++ String.ofList (Nat.toDigits 16 n)

/-- Reads a numeral with at least one digit and nothing but digits. -/
def readDecimal? (text : List Char) : Option Nat :=
  if text ≠ [] ∧ text.all Char.isDigit then some (Nat.ofDigitChars 10 text 0) else none

theorem decimalDigits_ne_nil (n : Nat) : decimalDigits n ≠ [] := Nat.toDigits_ne_nil

theorem all_isDigit_decimalDigits (n : Nat) : (decimalDigits n).all Char.isDigit = true := by
  simp only [List.all_eq_true]
  exact fun c hmember => Nat.isDigit_of_mem_toDigits (by omega) (by omega) hmember

theorem readDecimal?_decimalDigits (n : Nat) : readDecimal? (decimalDigits n) = some n := by
  rw [readDecimal?, if_pos ⟨decimalDigits_ne_nil n, all_isDigit_decimalDigits n⟩]
  exact congrArg some (Nat.ofDigitChars_toDigits (by omega) (by omega))

theorem decimal_inj {m n : Nat} : decimal m = decimal n ↔ m = n := by
  constructor
  · intro heq
    have hdigits : decimalDigits m = decimalDigits n := by
      simpa [decimal] using congrArg String.toList heq
    have hvalue := readDecimal?_decimalDigits m
    rw [hdigits, readDecimal?_decimalDigits] at hvalue
    exact (Option.some.inj hvalue).symm
  · exact congrArg decimal

end DecodeProbe.Text
