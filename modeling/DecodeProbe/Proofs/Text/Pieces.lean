import DecodeProbe.Proofs.Text.Utf8

/-!
# Characters and their bytes

Bytes that are read as characters only are the bytes of those characters, so strict
reading and writing undo each other both ways.  A character that is cut off before
its last byte is read as one broken part.  What carries both is the beginning of a
character: it fixes the first bytes of every character that can still come of it.
-/

namespace DecodeProbe.Text.Utf8

/-! ## Beginnings -/

/-- The last `count` bytes of a character beyond ASCII. -/
def continuation (value : Nat) : (count : Nat) → Bytes
  | 0 => []
  | count + 1 => UInt8.ofNat (value / 64 ^ count % 64 + 0x80) :: continuation value count

/-- These bytes begin every character that can still come of the pending one. -/
structure Begins (read : Bytes) (pending : Pending) : Prop where
  beyond : pending.Beyond
  encoded : ∀ value, pending.least ≤ value → value < pending.bound →
    String.utf8EncodeChar (Char.ofNat value) =
      read ++ continuation value (pending.after + 1)

theorem encode_two {value : Nat} (hvalue : 0x80 ≤ value ∧ value < 0x800) :
    String.utf8EncodeChar (Char.ofNat value) =
      UInt8.ofNat (value / 64 + 0xC0) :: continuation value 1 := by
  have hchar : (Char.ofNat value).val.toNat = value := toNat_charOfNat (.inl (by omega))
  simp only [String.utf8EncodeChar, hchar, continuation]
  rw [if_neg (by omega), if_pos (by omega)]
  rw [Nat.mod_eq_of_lt (show value / 64 < 32 by omega)]
  simp

theorem encode_three {value : Nat} (hvalue : 0x800 ≤ value ∧ value < 0x10000)
    (hvalid : value.isValidChar) :
    String.utf8EncodeChar (Char.ofNat value) =
      UInt8.ofNat (value / 64 ^ 2 + 0xE0) :: continuation value 2 := by
  have hchar : (Char.ofNat value).val.toNat = value := toNat_charOfNat hvalid
  simp only [String.utf8EncodeChar, hchar, continuation]
  rw [if_neg (by omega), if_neg (by omega), if_pos (by omega)]
  rw [Nat.mod_eq_of_lt (show value / 4096 < 16 by omega)]
  simp

theorem encode_four {value : Nat} (hvalue : 0x10000 ≤ value ∧ value < 0x110000) :
    String.utf8EncodeChar (Char.ofNat value) =
      UInt8.ofNat (value / 64 ^ 3 + 0xF0) :: continuation value 3 := by
  have hchar : (Char.ofNat value).val.toNat = value := toNat_charOfNat (.inr (by omega))
  simp only [String.utf8EncodeChar, hchar, continuation]
  rw [if_neg (by omega), if_neg (by omega), if_neg (by omega)]
  rw [Nat.mod_eq_of_lt (show value / 262144 < 8 by omega)]
  simp

theorem encode_ascii {b : UInt8} (hascii : b.toNat < 0x80) :
    String.utf8EncodeChar (Char.ofNat b.toNat) = [b] := by
  have hchar : (Char.ofNat b.toNat).val.toNat = b.toNat := toNat_charOfNat (.inl (by omega))
  simp only [String.utf8EncodeChar, hchar]
  rw [if_pos (by omega), UInt8.ofNat_toNat]

section

variable {b : UInt8}

theorem begins_two (hlead : 0xC2 ≤ b.toNat ∧ b.toNat < 0xE0) :
    Begins [b] ⟨b.toNat - 0xC0, 0, 0x80, 0xBF⟩ where
  beyond := beyond_two hlead
  encoded := by
    intro value hleast hbound
    simp only [Pending.least, Pending.bound] at hleast hbound
    rw [encode_two (by omega), show value / 64 + 0xC0 = b.toNat by omega, UInt8.ofNat_toNat]
    rfl

theorem begins_three (hlead : 0xE0 ≤ b.toNat ∧ b.toNat < 0xF0) :
    Begins [b] ⟨b.toNat - 0xE0, 1, if b.toNat = 0xE0 then 0xA0 else 0x80,
      if b.toNat = 0xED then 0x9F else 0xBF⟩ where
  beyond := beyond_three hlead
  encoded := by
    intro value hleast hbound
    have hvalid := (beyond_three hlead).valid
    simp only [Pending.least, Pending.bound] at hleast hbound hvalid
    have hrange : 0x800 ≤ value ∧ value < 0x10000 := by split_ifs at * <;> omega
    have hpoint : value.isValidChar := by
      unfold Nat.isValidChar
      split_ifs at * <;> omega
    have hlead : value / 64 ^ 2 + 0xE0 = b.toNat := by split_ifs at * <;> omega
    rw [encode_three hrange hpoint, hlead, UInt8.ofNat_toNat]
    rfl

theorem begins_four (hlead : 0xF0 ≤ b.toNat ∧ b.toNat < 0xF5) :
    Begins [b] ⟨b.toNat - 0xF0, 2, if b.toNat = 0xF0 then 0x90 else 0x80,
      if b.toNat = 0xF4 then 0x8F else 0xBF⟩ where
  beyond := beyond_four hlead
  encoded := by
    intro value hleast hbound
    simp only [Pending.least, Pending.bound] at hleast hbound
    have hrange : 0x10000 ≤ value ∧ value < 0x110000 := by split_ifs at hleast hbound <;> omega
    have hlead : value / 64 ^ 3 + 0xF0 = b.toNat := by split_ifs at hleast hbound <;> omega
    rw [encode_four hrange, hlead, UInt8.ofNat_toNat]
    rfl

/-- The values that are left once the range of the next byte is the whole one. -/
theorem div_of_between {value bits after : Nat}
    (hleast : Pending.least ⟨bits, after, 0x80, 0xBF⟩ ≤ value)
    (hbound : value < Pending.bound ⟨bits, after, 0x80, 0xBF⟩) :
    value / 64 ^ (after + 1) = bits := by
  apply Nat.div_eq_of_lt_le
  · simpa [Pending.least, Nat.pow_succ', Nat.mul_assoc] using hleast
  · have hstep : Pending.bound ⟨bits, after, 0x80, 0xBF⟩ = (bits + 1) * 64 ^ (after + 1) := by
      simp only [Pending.bound]
      ring
    rwa [hstep] at hbound

/-- One more byte of a beginning makes a longer one. -/
theorem Begins.continued {read : Bytes} {pending : Pending} {after : Nat}
    (hbegins : Begins read pending) (hmore : pending.after = after + 1)
    (hinside : pending.low ≤ b.toNat ∧ b.toNat ≤ pending.high) :
    Begins (read ++ [b]) ⟨pending.bits * 64 + b.toNat % 64, after, 0x80, 0xBF⟩ where
  beyond := hbegins.beyond.continued hmore hinside
  encoded := by
    intro value hleast hbound
    have hlow := hbegins.beyond.low
    have hhigh := hbegins.beyond.high
    have hbyte : value / 64 ^ (after + 1) % 64 + 0x80 = b.toNat := by
      rw [div_of_between hleast hbound]
      omega
    rw [hbegins.encoded value
      ((Pending.least_le_continued hlow hhigh hmore hinside).trans hleast)
      (hbound.trans_le (Pending.bound_continued_le hlow hhigh hmore hinside)),
      hmore, continuation, hbyte, UInt8.ofNat_toNat, List.append_assoc]
    rfl

/-- The last byte of a beginning makes the character. -/
theorem Begins.completed {read : Bytes} {pending : Pending} (hbegins : Begins read pending)
    (hlast : pending.after = 0) (hinside : pending.low ≤ b.toNat ∧ b.toNat ≤ pending.high) :
    String.utf8EncodeChar (Char.ofNat (pending.bits * 64 + b.toNat % 64)) = read ++ [b] := by
  have hlow := hbegins.beyond.low
  have hhigh := hbegins.beyond.high
  have hbyte : (pending.bits * 64 + b.toNat % 64) / 64 ^ 0 % 64 + 0x80 = b.toNat := by omega
  rw [hbegins.encoded _ (by simp only [Pending.least, hlast]; omega)
    (by simp only [Pending.bound, hlast]; omega), hlast, continuation, hbyte, UInt8.ofNat_toNat]
  rfl

/-! ## One byte -/

/-- What has been read of a character that is not complete. -/
def Held (read : Bytes) : Option Pending → Prop
  | none => read = []
  | some pending => Begins read pending

theorem held_none : Held [] none := rfl

theorem Begins.held {read : Bytes} {pending : Pending} (hbegins : Begins read pending) :
    Held read (some pending) := hbegins

theorem first_held (b : UInt8) :
    .broken ∈ (first b).1 ∨
    (∃ c, first b = ([.char c], none) ∧ String.utf8EncodeChar c = [b]) ∨
    ∃ pending, first b = ([], some pending) ∧ Begins [b] pending := by
  simp only [first]
  split
  case isTrue hascii => exact .inr (.inl ⟨_, rfl, encode_ascii hascii⟩)
  rename_i hascii
  split
  case isTrue => exact .inl (List.mem_singleton_self _)
  split
  case isTrue => exact .inr (.inr ⟨_, rfl, begins_two (by omega)⟩)
  split
  case isTrue => exact .inr (.inr ⟨_, rfl, begins_three (by omega)⟩)
  split
  case isTrue => exact .inr (.inr ⟨_, rfl, begins_four (by omega)⟩)
  exact .inl (List.mem_singleton_self _)

theorem next_held {read : Bytes} {state : Option Pending} (hheld : Held read state) :
    .broken ∈ (next state b).1 ∨
    (∃ c, next state b = ([.char c], none) ∧ String.utf8EncodeChar c = read ++ [b]) ∨
    ∃ pending, next state b = ([], some pending) ∧ Begins (read ++ [b]) pending := by
  cases state with
  | none =>
      obtain rfl : read = [] := hheld
      exact first_held b
  | some pending =>
      have hbegins : Begins read pending := hheld
      simp only [next]
      split
      · next hinside =>
        split
        · next hlast => exact .inr (.inl ⟨_, rfl, hbegins.completed hlast hinside⟩)
        · next hmore => exact .inr (.inr ⟨_, rfl, hbegins.continued hmore hinside⟩)
      · exact .inl List.mem_cons_self

end

/-! ## Strict reading -/

theorem encode_of_piecesFrom {state : Option Pending} {read input : Bytes} {text : List Char}
    (hheld : Held read state) (hpieces : piecesFrom state input = text.map .char) :
    encode text = read ++ input := by
  induction input generalizing state read text with
  | nil =>
      cases state with
      | none =>
          obtain rfl : read = [] := hheld
          obtain rfl : text = [] := by simpa [piecesFrom] using hpieces
          rfl
      | some pending => cases text <;> simp [piecesFrom] at hpieces
  | cons b rest ih =>
      rw [piecesFrom_cons] at hpieces
      obtain hbroken | ⟨c, hnext, hencode⟩ | ⟨pending, hnext, hbegins⟩ := next_held (b := b) hheld
      · have hmem : Piece.broken ∈ text.map Piece.char := by
          rw [← hpieces]
          exact List.mem_append_left _ hbroken
        simp at hmem
      · rw [hnext] at hpieces
        obtain ⟨c', later, rfl, hc, hlater⟩ := List.map_eq_cons_iff.mp hpieces.symm
        obtain rfl := Piece.char.inj hc
        rw [encode_cons, hencode, ih held_none hlater.symm, List.nil_append, List.append_assoc]
        rfl
      · rw [hnext] at hpieces
        rw [ih hbegins.held hpieces, List.append_assoc]
        rfl

theorem pieces_of_decode? {input : Bytes} {text : List Char}
    (hdecode : decode? input = some text) : pieces input = text.map .char := by
  unfold decode? at hdecode
  generalize pieces input = found at hdecode ⊢
  induction found generalizing text with
  | nil =>
      obtain rfl : text = [] := by simpa using hdecode.symm
      rfl
  | cons piece found ih =>
      cases piece with
      | broken => simp at hdecode
      | char c =>
          rw [List.mapM_cons] at hdecode
          obtain ⟨_, hc, hdecode⟩ := Option.bind_eq_some_iff.mp hdecode
          obtain ⟨later, hlater, heq⟩ := Option.bind_eq_some_iff.mp hdecode
          obtain rfl := Option.some.inj hc
          obtain rfl : c :: later = text := Option.some.inj heq
          rw [ih hlater, List.map_cons]

theorem decode?_eq_some_iff {input : Bytes} {text : List Char} :
    decode? input = some text ↔ encode text = input := by
  constructor
  · intro hdecode
    simpa using encode_of_piecesFrom held_none (pieces_of_decode? hdecode)
  · rintro rfl
    exact decode?_encode text

theorem decode?_eq_none_iff {input : Bytes} :
    decode? input = none ↔ ¬ ∃ text, encode text = input := by
  simp only [← decode?_eq_some_iff, Option.eq_none_iff_forall_ne_some, not_exists, ne_eq]

/-! ## Characters cut off -/

theorem next_ne_nothing (state : Option Pending) (b : UInt8) :
    (next state b).1 ≠ [] ∨ (next state b).2 ≠ none := by
  have hfirst : (first b).1 ≠ [] ∨ (first b).2 ≠ none := by
    obtain hbroken | ⟨c, heq, -⟩ | ⟨pending, heq, -⟩ := first_held b
    · exact .inl (List.ne_nil_of_mem hbroken)
    · simp [heq]
    · simp [heq]
  cases state with
  | none => exact hfirst
  | some pending =>
      simp only [next]
      split
      · split <;> simp
      · exact .inl (List.cons_ne_nil _ _)

theorem piecesFrom_ne_nil {state : Option Pending} {input : Bytes}
    (hsome : state ≠ none ∨ input ≠ []) : piecesFrom state input ≠ [] := by
  induction input generalizing state with
  | nil =>
      cases state with
      | none => simp at hsome
      | some pending => exact List.cons_ne_nil _ _
  | cons b rest ih =>
      rw [piecesFrom_cons]
      rcases next_ne_nothing state b with hpieces | hstate
      · exact List.append_ne_nil_of_left_ne_nil hpieces _
      · exact List.append_ne_nil_of_right_ne_nil _ (ih (.inl hstate))

/-- Reading goes on after some bytes with what they left pending. -/
theorem piecesFrom_append (state : Option Pending) (input : Bytes) :
    ∃ done pending, ∀ rest, piecesFrom state (input ++ rest) = done ++ piecesFrom pending rest := by
  induction input generalizing state with
  | nil => exact ⟨[], state, fun rest => rfl⟩
  | cons b input ih =>
      obtain ⟨done, pending, hlater⟩ := ih (next state b).2
      refine ⟨(next state b).1 ++ done, pending, fun rest => ?_⟩
      rw [List.cons_append, piecesFrom_cons, hlater, List.append_assoc]

/-- Some but not all bytes of a character are one broken part. -/
theorem pieces_of_cut {c : Char} {read missing : Bytes} (hread : read ≠ []) (hmissing : missing ≠ [])
    (hencode : String.utf8EncodeChar c = read ++ missing) : pieces read = [.broken] := by
  obtain ⟨done, pending, hpieces⟩ := piecesFrom_append none read
  have hwhole : [.char c] = done ++ piecesFrom pending missing := by
    rw [← hpieces, ← hencode]
    simpa [piecesFrom] using (piecesFrom_encodeChar c []).symm
  -- the missing bytes give the one piece there is, so the bytes before them give none
  obtain rfl : done = [] := by
    have hlater : piecesFrom pending missing ≠ [] := piecesFrom_ne_nil (.inr hmissing)
    cases done with
    | nil => rfl
    | cons piece done => simp_all
  have hcut : pieces read = piecesFrom pending [] := by simpa [pieces] using hpieces []
  cases pending with
  | none => exact absurd hcut (piecesFrom_ne_nil (.inr hread))
  | some pending => exact hcut

end DecodeProbe.Text.Utf8
