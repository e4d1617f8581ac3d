import DecodeProbe.Text.Fields
import DecodeProbe.Text.Quoted

/-!
# Reading reports back

The parent process reads a report either line by line, in pairs, or as an object
whose members are strings.  An object is cut into tokens first, and the tokens
are read as members in order; equal keys are all kept.  Quoted text is one token,
whatever characters it holds (`tokens?_quote`).
-/

namespace DecodeProbe.Report

/-- The elements in pairs; a last one alone is refused. -/
def pairs? {α : Type} : List α → Option (List (α × α))
  | [] => some []
  | [_] => none
  | a :: b :: rest => (pairs? rest).map ((a, b) :: ·)

def readLines? (text : List Char) : Option (List (List Char × List Char)) :=
  match (Text.fields '\n' text).reverse with
  | [] :: lines => pairs? lines.reverse
  | _ => none

inductive Token where
  | openBrace
  | closeBrace
  | colon
  | comma
  | text (content : List Char)
  deriving DecidableEq, Repr

/-- Where the reader of tokens stands; what a string holds so far is kept in reverse. -/
inductive Place where
  | between
  | inText (soFar : List Char)
  | afterBackslash (soFar : List Char)
  | inCode (soFar : List Char) (value digits : Nat)
  deriving DecidableEq, Repr

def punctuation? (c : Char) : Option Token :=
  if c = '\x7b' then some .openBrace
  else if c = '\x7d' then some .closeBrace
  else if c = ':' then some .colon
  else if c = ',' then some .comma
  else none

def escaped? (c : Char) : Option Char :=
  if c = '"' ∨ c = '\\' ∨ c = '/' then some c
  else if c = 'b' then some '\x08'
  else if c = 't' then some '\t'
  else if c = 'n' then some '\n'
  else if c = 'f' then some '\x0C'
  else if c = 'r' then some '\r'
  else none

def isSpace (c : Char) : Bool := c = ' ' || c = '\t' || c = '\n' || c = '\r'

/-- Cuts an object into tokens.  Codes of surrogates are refused, no character needs them. -/
def tokens? : Place → List Char → Option (List Token)
  | .between, [] => some []
  | _, [] => none
  | .between, c :: rest =>
      if isSpace c then tokens? .between rest
      else if c = '"' then tokens? (.inText []) rest
      else
        match punctuation? c with
        | some token => (tokens? .between rest).map (token :: ·)
        | none => none
  | .inText soFar, c :: rest =>
      if c = '"' then (tokens? .between rest).map (.text soFar.reverse :: ·)
      else if c = '\\' then tokens? (.afterBackslash soFar) rest
      else if c.toNat < 0x20 then none
      else tokens? (.inText (c :: soFar)) rest
  | .afterBackslash soFar, c :: rest =>
      if c = 'u' then tokens? (.inCode soFar 0 4) rest
      else
        match escaped? c with
        | some plain => tokens? (.inText (plain :: soFar)) rest
        | none => none
  | .inCode soFar value digits, c :: rest =>
      match Text.Escaped.hexValue? c.toLower with
      | none => none
      | some digit =>
          let value := 16 * value + digit
          match digits with
          | 0 | 1 =>
              if value.isValidChar then tokens? (.inText (Char.ofNat value :: soFar)) rest
              else none
          | more + 2 => tokens? (.inCode soFar value (more + 1)) rest

def members? : List Token → Option (List (List Char × List Char))
  | [.text key, .colon, .text value, .closeBrace] => some [(key, value)]
  | .text key :: .colon :: .text value :: .comma :: rest =>
      (members? rest).map ((key, value) :: ·)
  | _ => none

def readObject? (input : List Char) : Option (List (List Char × List Char)) :=
  match tokens? .between input with
  | some [.openBrace, .closeBrace] => some []
  | some (.openBrace :: rest) => members? rest
  | _ => none

example : readObject? "\x7b\"a\\u0041\" : \"\\n\"\x7d ".toList =
    some [(['a', 'A'], ['\n'])] := by decide

example : readLines? "K\nV\n".toList = some [(['K'], ['V'])] := by decide

/-! ## Quoted text is read back -/

open Text.Quoted (quote quoteChar)

theorem tokens?_plain (soFar : List Char) {c : Char} (rest : List Char)
    (hplain : ¬(c = '"' ∨ c = '\\')) (hvisible : ¬c.toNat < 0x20) :
    tokens? (.inText soFar) (c :: rest) = tokens? (.inText (c :: soFar)) rest := by
  rw [not_or] at hplain
  rw [tokens?, if_neg hplain.1, if_neg hplain.2, if_neg hvisible]

theorem tokens?_escaped (soFar : List Char) {letter c : Char} (rest : List Char)
    (hstands : escaped? letter = some c) (hother : letter ≠ 'u') :
    tokens? (.inText soFar) ('\\' :: letter :: rest) = tokens? (.inText (c :: soFar)) rest := by
  simp [tokens?, hstands, hother]

theorem tokens?_code (soFar : List Char) {value : Nat} (rest : List Char) (hsmall : value < 0x20) :
    tokens? (.inText soFar)
        (['\\', 'u', '0', '0', Nat.digitChar (value / 16), Nat.digitChar (value % 16)] ++ rest) =
      tokens? (.inText (Char.ofNat value :: soFar)) rest := by
  have hdigit : ∀ n < 16, Text.Escaped.hexValue? (Nat.digitChar n).toLower = some n := by decide
  have hhigh := hdigit (value / 16) (by omega)
  have hlow := hdigit (value % 16) (by omega)
  have hzero : Text.Escaped.hexValue? '0' = some 0 := by decide
  have hwhole : 16 * (value / 16) + value % 16 = value := by omega
  have hvalid : value.isValidChar := by left; omega
  simp [tokens?, hzero, hhigh, hlow, hwhole, hvalid]

theorem tokens?_quoteChar (c : Char) (soFar rest : List Char) :
    tokens? (.inText soFar) (quoteChar c ++ rest) = tokens? (.inText (c :: soFar)) rest := by
  unfold quoteChar
  split
  · next hspecial =>
    rcases hspecial with rfl | rfl <;> exact tokens?_escaped soFar rest (by decide) (by decide)
  · next hplain =>
    split
    · next hsmall =>
      split
      · next letter hfound =>
        have hmember : (c, letter) ∈ Text.Quoted.letters := by
          obtain ⟨before, after, hshape, _⟩ := List.lookup_eq_some_iff.mp hfound
          simp [hshape]
        have hinverse : ∀ entry ∈ Text.Quoted.letters,
            escaped? entry.2 = some entry.1 ∧ entry.2 ≠ 'u' := by decide
        exact tokens?_escaped soFar rest (hinverse _ hmember).1 (hinverse _ hmember).2
      · have hcode := tokens?_code soFar rest hsmall
        rwa [Char.ofNat_toNat] at hcode
    · next hvisible => exact tokens?_plain soFar rest hplain hvisible

theorem tokens?_quote (text rest : List Char) :
    tokens? .between (quote text ++ rest) = (tokens? .between rest).map (.text text :: ·) := by
  have hinside : ∀ soFar : List Char,
      tokens? (.inText soFar) (text.flatMap quoteChar ++ '"' :: rest) =
        (tokens? .between rest).map (.text (soFar.reverse ++ text) :: ·) := by
    induction text with
    | nil => intro soFar; simp [tokens?]
    | cons c text ih =>
        intro soFar
        rw [List.flatMap_cons, List.append_assoc, tokens?_quoteChar, ih]
        simp
  simpa [quote, tokens?, isSpace] using hinside []

end DecodeProbe.Report
