import DecodeProbe.Capabilities
import DecodeProbe.Proofs.Text.Fields
import DecodeProbe.Proofs.Text.Numeral

/-!
# Packed versions

The minor and the patch number of a version have eight bits of its word each and the
major number has the others.  The text of a version spells the three in decimal.  No
numeral holds a dot, so the text is cut into its numerals in one way only and the word
can be had back from it.
-/

namespace DecodeProbe

open Text (decimalDigits fields IsNumeral)

/-- The word holds the three numbers, each in its own bits. -/
structure Packs (version : UInt32) (major minor patch : Nat) : Prop where
  major_lt : major < 0x10000
  minor_lt : minor < 0x100
  patch_lt : patch < 0x100
  word : version.toNat = major * 0x10000 + minor * 0x100 + patch

/-! ## Words -/

theorem packs_parts (version : UInt32) :
    Packs version (version.toNat / 0x10000) (version.toNat / 0x100 % 0x100)
      (version.toNat % 0x100) where
  major_lt := by
    have hword := version.toNat_lt
    omega
  minor_lt := Nat.mod_lt _ (by decide)
  patch_lt := Nat.mod_lt _ (by decide)
  word := by omega

theorem packs_ofNat {major minor patch : Nat} (hmajor : major < 0x10000) (hminor : minor < 0x100)
    (hpatch : patch < 0x100) :
    Packs (.ofNat (major * 0x10000 + minor * 0x100 + patch)) major minor patch where
  major_lt := hmajor
  minor_lt := hminor
  patch_lt := hpatch
  word := by
    rw [UInt32.toNat_ofNat']
    omega

/-! ## Texts -/

section

variable {version : UInt32} {major minor patch : Nat}

theorem versionText_of_packs (hpacks : Packs version major minor patch) :
    versionText version =
      Text.decimal major ++ "." ++ Text.decimal minor ++ "." ++ Text.decimal patch := by
  obtain ⟨-, hminor, hpatch, hword⟩ := hpacks
  have hmajor : version.toNat / 0x10000 = major := by omega
  have hmiddle : version.toNat / 0x100 % 0x100 = minor := by omega
  have hlast : version.toNat % 0x100 = patch := by omega
  rw [versionText, hmajor, hmiddle, hlast]
  rfl

theorem toList_versionText (hpacks : Packs version major minor patch) :
    (versionText version).toList =
      decimalDigits major ++ '.' :: decimalDigits minor ++ '.' :: decimalDigits patch := by
  simp [versionText_of_packs hpacks, Text.decimal]

theorem fields_versionText (hpacks : Packs version major minor patch) :
    fields '.' (versionText version).toList =
      [decimalDigits major, decimalDigits minor, decimalDigits patch] := by
  have hfree : ∀ n, '.' ∉ decimalDigits n := Text.notMem_decimalDigits (by decide)
  rw [toList_versionText hpacks, Text.fields_append_cons, Text.fields_append_cons,
    Text.fields_of_notMem (hfree major), Text.fields_of_notMem (hfree minor),
    Text.fields_of_notMem (hfree patch)]
  rfl

end

theorem eq_of_versionText_eq {first second : UInt32}
    (heq : versionText first = versionText second) : first = second := by
  have hfirst := packs_parts first
  have hsecond := packs_parts second
  have hfields := fields_versionText hfirst
  rw [heq, fields_versionText hsecond] at hfields
  simp only [List.cons.injEq, Text.decimalDigits_inj, and_true] at hfields
  obtain ⟨hmajor, hminor, hpatch⟩ := hfields
  apply UInt32.toNat_inj.mp
  rw [hfirst.word, hsecond.word, hmajor, hminor, hpatch]

/--
The text of a version is three numerals with dots between them, and they are those of
the numbers that its word packs.  Whatever numbers are packed, their numerals are the
text, and no other version has it.
-/
theorem versionText_inverts_packing :
    (∀ version : UInt32, ∃ major minor patch : Nat,
      major < 0x10000 ∧ minor < 0x100 ∧ patch < 0x100 ∧
      version.toNat = major * 0x10000 + minor * 0x100 + patch ∧
      ∃ first second third : List Char,
        (versionText version).toList = first ++ '.' :: second ++ '.' :: third ∧
        fields '.' (versionText version).toList = [first, second, third] ∧
        IsNumeral first major ∧ IsNumeral second minor ∧ IsNumeral third patch) ∧
    (∀ major minor patch : Nat, major < 0x10000 → minor < 0x100 → patch < 0x100 →
      versionText (.ofNat (major * 0x10000 + minor * 0x100 + patch)) =
        Text.decimal major ++ "." ++ Text.decimal minor ++ "." ++ Text.decimal patch) ∧
    (∀ first second : UInt32, versionText first = versionText second ↔ first = second) := by
  refine ⟨?_, ?_, ?_⟩
  · intro version
    have hpacks := packs_parts version
    exact ⟨_, _, _, hpacks.major_lt, hpacks.minor_lt, hpacks.patch_lt, hpacks.word, _, _, _,
      toList_versionText hpacks, fields_versionText hpacks, Text.isNumeral_decimalDigits _,
      Text.isNumeral_decimalDigits _, Text.isNumeral_decimalDigits _⟩
  · intro major minor patch hmajor hminor hpatch
    exact versionText_of_packs (packs_ofNat hmajor hminor hpatch)
  · intro first second
    exact ⟨eq_of_versionText_eq, congrArg versionText⟩

/-- A major number of more than eight bits, and minor and patch numbers that fill theirs. -/
theorem versionText_inverts_packing_full :
    5000 < 0x10000 ∧ 255 < 0x100 ∧ 255 < 0x100 ∧
      versionText (.ofNat (5000 * 0x10000 + 255 * 0x100 + 255)) =
        Text.decimal 5000 ++ "." ++ Text.decimal 255 ++ "." ++ Text.decimal 255 ∧
      versionText 0x1388FFFF = "5000.255.255" := by
  obtain ⟨-, htext, -⟩ := versionText_inverts_packing
  exact ⟨by decide, by decide, by decide,
    htext 5000 255 255 (by decide) (by decide) (by decide), by decide⟩

end DecodeProbe
