import DecodeProbe.Text.Utf8

/-!
# Escaped bytes

Any byte can be shown in printable ASCII: a printable byte as itself, the
backslash and the two quotes behind a backslash, tab, carriage return and line
feed by their letters, and every other byte as `\x` and two hexadecimal digits.
`unescape?` reads such a text back.
-/

namespace DecodeProbe.Text.Escaped

open DecodeProbe.Text.Utf8 (Bytes)

def letters : List (UInt8 × Char) :=
  [(0x09, 't'), (0x0A, 'n'), (0x0D, 'r'), (0x22, '"'), (0x27, '\''), (0x5C, '\\')]

def escapeByte (b : UInt8) : List Char :=
  match letters.lookup b with
  | some letter => ['\\', letter]
  | none =>
      if 0x20 ≤ b ∧ b ≤ 0x7E then [Char.ofNat b.toNat]
      else ['\\', 'x', Nat.digitChar (b.toNat / 16), Nat.digitChar (b.toNat % 16)]

def escape (input : Bytes) : List Char := input.flatMap escapeByte

def hexValue? (c : Char) : Option Nat :=
  if '0' ≤ c ∧ c ≤ '9' then some (c.toNat - '0'.toNat)
  else if 'a' ≤ c ∧ c ≤ 'f' then some (c.toNat - 'a'.toNat + 10)
  else none

def letterByte? (letter : Char) : Option UInt8 :=
  (letters.find? fun entry => entry.2 = letter).map Prod.fst

/-- Reads escapes back; a character that no byte is written as is refused. -/
def unescape? : List Char → Option Bytes
  | [] => some []
  | c :: rest =>
      if c = '\\' then
        match rest with
        | [] => none
        | letter :: rest =>
            if letter = 'x' then
              match rest with
              | high :: low :: rest =>
                  match hexValue? high, hexValue? low with
                  | some high, some low =>
                      (unescape? rest).map (UInt8.ofNat (16 * high + low) :: ·)
                  | _, _ => none
              | _ => none
            else
              match letterByte? letter with
              | some b => (unescape? rest).map (b :: ·)
              | none => none
      else if ' ' ≤ c ∧ c ≤ '~' then (unescape? rest).map (UInt8.ofNat c.toNat :: ·)
      else none

theorem hexValue?_digitChar : ∀ n < 16, hexValue? (Nat.digitChar n) = some n := by decide

theorem unescape?_letter {b : UInt8} {letter : Char} (hwritten : letterByte? letter = some b)
    (hother : letter ≠ 'x') (rest : List Char) :
    unescape? ('\\' :: letter :: rest) = (unescape? rest).map (b :: ·) := by
  rw [unescape?.eq_def]
  simp [hwritten, hother]

theorem unescape?_plain {c : Char} (hprintable : ' ' ≤ c ∧ c ≤ '~') (hother : c ≠ '\\')
    (rest : List Char) :
    unescape? (c :: rest) = (unescape? rest).map (UInt8.ofNat c.toNat :: ·) := by
  rw [unescape?.eq_def]
  simp [hprintable, hother]

theorem unescape?_escapeByte (b : UInt8) (rest : List Char) :
    unescape? (escapeByte b ++ rest) = (unescape? rest).map (b :: ·) := by
  have hsmall := b.toNat_lt
  unfold escapeByte
  split
  · next letter hfound =>
    have hmember : (b, letter) ∈ letters := by
      obtain ⟨before, after, hshape, _⟩ := List.lookup_eq_some_iff.mp hfound
      simp [hshape]
    have hinverse : ∀ entry ∈ letters, letterByte? entry.2 = some entry.1 ∧ entry.2 ≠ 'x' := by
      decide
    exact unescape?_letter (hinverse _ hmember).1 (hinverse _ hmember).2 rest
  · next hunlisted =>
    split
    · next hprintable =>
      have hbounds : 0x20 ≤ b.toNat ∧ b.toNat ≤ 0x7E := hprintable
      have hvalue : (Char.ofNat b.toNat).toNat = b.toNat := by
        have hvalid : b.toNat.isValidChar := by left; omega
        rw [Char.ofNat, dif_pos hvalid]
        rfl
      have hother : Char.ofNat b.toNat ≠ '\\' := by
        intro hsame
        have hcode : b.toNat = 0x5C := by rw [← hvalue, hsame]; rfl
        have : b = 0x5C := UInt8.toNat_inj.mp hcode
        simp [this, letters] at hunlisted
      have hinside : ' ' ≤ Char.ofNat b.toNat ∧ Char.ofNat b.toNat ≤ '~' := by
        change 0x20 ≤ (Char.ofNat b.toNat).toNat ∧ (Char.ofNat b.toNat).toNat ≤ 0x7E
        rwa [hvalue]
      simpa [hvalue] using unescape?_plain hinside hother rest
    · have hhigh := hexValue?_digitChar (b.toNat / 16) (by omega)
      have hlow := hexValue?_digitChar (b.toNat % 16) (by omega)
      have hwhole : 16 * (b.toNat / 16) + b.toNat % 16 = b.toNat := by omega
      simp [unescape?, hhigh, hlow, hwhole]

theorem unescape?_escape (input : Bytes) : unescape? (escape input) = some input := by
  induction input with
  | nil => rfl
  | cons b input ih =>
      rw [escape, List.flatMap_cons, unescape?_escapeByte]
      exact congrArg (Option.map (b :: ·)) ih

example : escape [0x4E, 0xFF, 0x0A, 0x5C] =
    ['N', '\\', 'x', 'f', 'f', '\\', 'n', '\\', '\\'] := by decide

example : unescape? (escape [0x4E, 0xFF, 0x0A, 0x5C]) = some [0x4E, 0xFF, 0x0A, 0x5C] := by decide

end DecodeProbe.Text.Escaped
