import DecodeProbe.FormatScan

/-!
# Codes and words

A word and its four bytes are the same code: packing and unpacking undo each
other, so a code is recognised by its word.
-/

namespace DecodeProbe

namespace FourCC

theorem toNat_toWord (code : FourCC) :
    code.toWord.toNat = code.byte0.toNat + 0x100 * code.byte1.toNat +
      0x10000 * code.byte2.toNat + 0x1000000 * code.byte3.toNat := by
  have h0 := code.byte0.toNat_lt
  have h1 := code.byte1.toNat_lt
  have h2 := code.byte2.toNat_lt
  have h3 := code.byte3.toNat_lt
  rw [toWord, UInt32.toNat_ofNat']
  exact Nat.mod_eq_of_lt (by omega)

theorem toWord_ofWord (word : UInt32) : (ofWord word).toWord = word := by
  have hword := word.toNat_lt
  apply UInt32.toNat_inj.mp
  rw [toNat_toWord]
  simp only [ofWord, UInt8.toNat_ofNat']
  omega

theorem ofWord_toWord (code : FourCC) : ofWord code.toWord = code := by
  have h0 := code.byte0.toNat_lt
  have h1 := code.byte1.toNat_lt
  have h2 := code.byte2.toNat_lt
  have h3 := code.byte3.toNat_lt
  have hbyte : ∀ (n : Nat) (b : UInt8), n % 2 ^ 8 = b.toNat → UInt8.ofNat n = b := by
    intro n b hn
    apply UInt8.toNat_inj.mp
    rw [UInt8.toNat_ofNat', hn]
  rw [ofWord, toNat_toWord]
  congr 1
  · exact hbyte _ _ (by omega)
  · exact hbyte _ _ (by omega)
  · exact hbyte _ _ (by omega)
  · exact hbyte _ _ (by omega)

theorem ofWord_eq_iff {word : UInt32} {code : FourCC} : ofWord word = code ↔ word = code.toWord := by
  constructor
  · rintro rfl
    exact (toWord_ofWord word).symm
  · rintro rfl
    exact ofWord_toWord code

end FourCC

/-- What a scan makes of a code that is passed as a word. -/
theorem FormatScan.record_ofWord (scan : FormatScan) (word : UInt32) :
    scan.record (.ofWord word) =
      if word = 0x34363248 then { scan with bits := scan.bits ||| 0x10 }
      else if word = 0x3231564E ∨ word = 0x32315659 then ⟨1, true⟩
      else scan := by
  simp only [record, FourCC.IsRaw, FourCC.ofWord_eq_iff]
  rfl

end DecodeProbe
