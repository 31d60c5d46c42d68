import Relocation.Text.Hidden

/-! Texts in quotes as they stand in the log: what would end the text or not show is escaped. -/

namespace Relocation.Text

def hexDigits (n : Nat) : List Char := Nat.toDigits 16 n

def quoteChar (c : Char) : List Char :=
  if c = '\x00' then ['\\', '0']
  else if c = '\t' then ['\\', 't']
  else if c = '\r' then ['\\', 'r']
  else if c = '\n' then ['\\', 'n']
  else if c = '\\' then ['\\', '\\']
  else if c = '"' then ['\\', '"']
  else if isHidden c then '\\' :: 'u' :: '{' :: (hexDigits c.toNat ++ ['}'])
  else [c]

def quote (s : String) : String := String.ofList ('"' :: (s.toList.flatMap quoteChar ++ ['"']))

def quoteEntries (entries : List (String × String)) : String :=
  let inner := String.intercalate ", " (entries.map fun (k, v) => quote k ++ ": " ++ quote v)
  "\x7b" ++ inner ++ "\x7d"

end Relocation.Text
