/-!
# UTF-8

Text that comes from a driver or from a path is bytes first.  `pieces` cuts a
byte string into characters and broken parts, where a broken part is as long as
some character could still have begun with it (the maximal subpart of the
standard).  Strict reading refuses broken parts; lossy reading shows each of
them as one replacement character.
-/

namespace DecodeProbe.Text.Utf8

abbrev Bytes := List UInt8

def encode (text : List Char) : Bytes := text.flatMap String.utf8EncodeChar

def bytes (text : String) : Bytes := encode text.toList

@[simp] theorem encode_nil : encode [] = [] := rfl

@[simp] theorem encode_cons (c : Char) (text : List Char) :
    encode (c :: text) = String.utf8EncodeChar c ++ encode text := rfl

@[simp] theorem encode_append (text more : List Char) :
    encode (text ++ more) = encode text ++ encode more := by
  simp [encode]

inductive Piece where
  | char (c : Char)
  | broken
  deriving DecidableEq, Repr

/--
A character whose bytes have not all been read: the bits so far, the number of
bytes missing after the next one, and the range the next one must lie in.
-/
structure Pending where
  bits : Nat
  after : Nat
  low : Nat
  high : Nat
  deriving DecidableEq, Repr

/--
The first byte of a character.  The narrowed ranges after `E0`, `ED`, `F0` and
`F4` keep out long forms, surrogates and everything above the last code point.
-/
def first (b : UInt8) : List Piece × Option Pending :=
  let n := b.toNat
  if n < 0x80 then ([.char (Char.ofNat n)], none)
  else if n < 0xC2 then ([.broken], none)
  else if n < 0xE0 then ([], some ⟨n - 0xC0, 0, 0x80, 0xBF⟩)
  else if n < 0xF0 then
    ([], some ⟨n - 0xE0, 1, if n = 0xE0 then 0xA0 else 0x80, if n = 0xED then 0x9F else 0xBF⟩)
  else if n < 0xF5 then
    ([], some ⟨n - 0xF0, 2, if n = 0xF0 then 0x90 else 0x80, if n = 0xF4 then 0x8F else 0xBF⟩)
  else ([.broken], none)

/-- One more byte; a byte out of range ends the broken part before it. -/
def next : Option Pending → UInt8 → List Piece × Option Pending
  | none, b => first b
  | some p, b =>
      if p.low ≤ b.toNat ∧ b.toNat ≤ p.high then
        let bits := p.bits * 64 + b.toNat % 64
        match p.after with
        | 0 => ([.char (Char.ofNat bits)], none)
        | after + 1 => ([], some ⟨bits, after, 0x80, 0xBF⟩)
      else
        (.broken :: (first b).1, (first b).2)

def piecesFrom : Option Pending → Bytes → List Piece
  | none, [] => []
  | some _, [] => [.broken]
  | state, b :: rest => (next state b).1 ++ piecesFrom (next state b).2 rest

def pieces (input : Bytes) : List Piece := piecesFrom none input

def decode? (input : Bytes) : Option (List Char) :=
  (pieces input).mapM fun
    | .char c => some c
    | .broken => none

def Piece.shown : Piece → Char
  | .char c => c
  | .broken => '\uFFFD'

/-- The text of any byte string, each broken part shown as `U+FFFD`. -/
def lossy (input : Bytes) : List Char := (pieces input).map Piece.shown

def shown (input : Bytes) : String := String.ofList (lossy input)

/-! ## Text as bytes and back -/

theorem piecesFrom_cons (state : Option Pending) (b : UInt8) (rest : Bytes) :
    piecesFrom state (b :: rest) = (next state b).1 ++ piecesFrom (next state b).2 rest := by
  cases state <;> rfl

theorem next_last {bits low high : Nat} {b : UInt8} (hinside : low ≤ b.toNat ∧ b.toNat ≤ high) :
    next (some ⟨bits, 0, low, high⟩) b =
      ([.char (Char.ofNat (bits * 64 + b.toNat % 64))], none) := by
  simp [next, hinside]

theorem next_more {bits after low high : Nat} {b : UInt8}
    (hinside : low ≤ b.toNat ∧ b.toNat ≤ high) :
    next (some ⟨bits, after + 1, low, high⟩) b =
      ([], some ⟨bits * 64 + b.toNat % 64, after, 0x80, 0xBF⟩) := by
  simp [next, hinside]

theorem toNat_ofNat {n : Nat} (hsmall : n < 256) : (UInt8.ofNat n).toNat = n := by
  simp [Nat.mod_eq_of_lt hsmall]

/-- The bytes of a character are read as that character, whatever follows. -/
theorem piecesFrom_encodeChar (c : Char) (rest : Bytes) :
    piecesFrom none (String.utf8EncodeChar c ++ rest) = .char c :: piecesFrom none rest := by
  have hvalid : c.toNat < 0xD800 ∨ 0xDFFF < c.toNat ∧ c.toNat < 0x110000 := c.valid
  have hback : ∀ n, n = c.toNat → Char.ofNat n = c := by
    rintro n rfl
    exact Char.ofNat_toNat c
  have hvalue : c.val.toNat = c.toNat := rfl
  simp only [String.utf8EncodeChar, hvalue]
  split
  · simp only [List.cons_append, List.nil_append, piecesFrom_cons, next, first,
      toNat_ofNat (show c.toNat < 256 by omega)]
    rw [if_pos (by omega)]
    simp [hback]
  · split
    · have hlead : first (UInt8.ofNat (c.toNat / 64 % 32 + 192)) =
          ([], some ⟨c.toNat / 64, 0, 0x80, 0xBF⟩) := by
        simp only [first, toNat_ofNat (show c.toNat / 64 % 32 + 192 < 256 by omega)]
        rw [if_neg (by omega), if_neg (by omega), if_pos (by omega)]
        simp only [Prod.mk.injEq, Option.some.injEq, Pending.mk.injEq, and_true, true_and]
        omega
      have htail := toNat_ofNat (show c.toNat % 64 + 128 < 256 by omega)
      simp only [List.cons_append, List.nil_append, piecesFrom_cons]
      rw [show next none _ = first _ from rfl, hlead, next_last (by rw [htail]; omega), htail,
        hback _ (by omega)]
      rfl
    · split
      · have hlead : first (UInt8.ofNat (c.toNat / 4096 % 16 + 224)) =
            ([], some ⟨c.toNat / 4096, 1, if c.toNat / 4096 = 0 then 0xA0 else 0x80,
              if c.toNat / 4096 = 13 then 0x9F else 0xBF⟩) := by
          simp only [first, toNat_ofNat (show c.toNat / 4096 % 16 + 224 < 256 by omega)]
          rw [if_neg (by omega), if_neg (by omega), if_neg (by omega), if_pos (by omega)]
          simp only [Prod.mk.injEq, Option.some.injEq, Pending.mk.injEq, true_and]
          refine ⟨by omega, ?_, ?_⟩ <;> congr 1 <;> simp only [eq_iff_iff] <;> omega
        have hsecond := toNat_ofNat (show c.toNat / 64 % 64 + 128 < 256 by omega)
        have hthird := toNat_ofNat (show c.toNat % 64 + 128 < 256 by omega)
        simp only [List.cons_append, List.nil_append, piecesFrom_cons]
        rw [show next none _ = first _ from rfl, hlead,
          next_more (by rw [hsecond]; constructor <;> split <;> omega), hsecond,
          next_last (by rw [hthird]; omega), hthird, hback _ (by omega)]
        rfl
      · have hlead : first (UInt8.ofNat (c.toNat / 262144 % 8 + 240)) =
            ([], some ⟨c.toNat / 262144, 2, if c.toNat / 262144 = 0 then 0x90 else 0x80,
              if c.toNat / 262144 = 4 then 0x8F else 0xBF⟩) := by
          simp only [first, toNat_ofNat (show c.toNat / 262144 % 8 + 240 < 256 by omega)]
          rw [if_neg (by omega), if_neg (by omega), if_neg (by omega), if_neg (by omega),
            if_pos (by omega)]
          simp only [Prod.mk.injEq, Option.some.injEq, Pending.mk.injEq, true_and]
          refine ⟨by omega, ?_, ?_⟩ <;> congr 1 <;> simp only [eq_iff_iff] <;> omega
        have hsecond := toNat_ofNat (show c.toNat / 4096 % 64 + 128 < 256 by omega)
        have hthird := toNat_ofNat (show c.toNat / 64 % 64 + 128 < 256 by omega)
        have hfourth := toNat_ofNat (show c.toNat % 64 + 128 < 256 by omega)
        simp only [List.cons_append, List.nil_append, piecesFrom_cons]
        rw [show next none _ = first _ from rfl, hlead,
          next_more (by rw [hsecond]; constructor <;> split <;> omega), hsecond,
          next_more (by rw [hthird]; omega), hthird,
          next_last (by rw [hfourth]; omega), hfourth, hback _ (by omega)]
        rfl

theorem piecesFrom_encode (text : List Char) (rest : Bytes) :
    piecesFrom none (encode text ++ rest) = text.map Piece.char ++ piecesFrom none rest := by
  induction text with
  | nil => rfl
  | cons c text ih =>
      rw [encode_cons, List.append_assoc, piecesFrom_encodeChar, ih]
      rfl

theorem pieces_encode (text : List Char) : pieces (encode text) = text.map Piece.char := by
  simpa [pieces, piecesFrom] using piecesFrom_encode text []

theorem decode?_encode (text : List Char) : decode? (encode text) = some text := by
  rw [decode?, pieces_encode]
  induction text with
  | nil => rfl
  | cons c text ih => simp [ih]

theorem lossy_encode (text : List Char) : lossy (encode text) = text := by
  simp [lossy, pieces_encode, Piece.shown, Function.comp_def]

example : lossy [0x2F, 0xC3, 0x28, 0xF0, 0x9F] = ['/', '\uFFFD', '(', '\uFFFD'] := by decide

example : lossy [0xED, 0xA0, 0x80] = ['\uFFFD', '\uFFFD', '\uFFFD'] := by decide

end DecodeProbe.Text.Utf8
