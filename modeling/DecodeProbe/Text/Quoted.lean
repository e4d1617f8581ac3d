import DecodeProbe.Text.Escaped

/-!
# Quoted text

A text between double quotes.  A quote, a backslash and every control character
below the space are written behind a backslash, by a letter where there is one
and by their code in four hexadecimal digits otherwise; all else stands as it is.
-/

namespace DecodeProbe.Text.Quoted

def letters : List (Char × Char) :=
  [('\x08', 'b'), ('\t', 't'), ('\n', 'n'), ('\x0C', 'f'), ('\r', 'r')]

def quoteChar (c : Char) : List Char :=
  if c = '"' ∨ c = '\\' then ['\\', c]
  else if c.toNat < 0x20 then
    match letters.lookup c with
    | some letter => ['\\', letter]
    | none => ['\\', 'u', '0', '0', Nat.digitChar (c.toNat / 16), Nat.digitChar (c.toNat % 16)]
  else [c]

def quote (text : List Char) : List Char := '"' :: text.flatMap quoteChar ++ ['"']

example : quote ['a', '"', '\n', '\x01'] =
    ['"', 'a', '\\', '"', '\\', 'n', '\\', 'u', '0', '0', '0', '1', '"'] := by decide

end DecodeProbe.Text.Quoted
