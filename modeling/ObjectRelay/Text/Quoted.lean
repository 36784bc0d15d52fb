import ObjectRelay.Unicode.Printable
/-!
# Quoted text in messages

Messages quote what was given to the program: between double quotes, with a
backslash before a double quote or a backslash, letters for the common controls,
and `\u{hex}` for every other character that would not show.
-/
namespace ObjectRelay

def quotedChar (c : Char) : List Char :=
  if c == '"' then ['\\', '"']
  else if c == '\\' then ['\\', '\\']
  else if c == '\n' then ['\\', 'n']
  else if c == '\r' then ['\\', 'r']
  else if c == '\t' then ['\\', 't']
  else if c == '\x00' then ['\\', '0']
  else if Unicode.isPlain c then [c]
  else ['\\', 'u', '{'] ++ Nat.toDigits 16 c.toNat ++ ['}']

def quoted (s : String) : String :=
  String.ofList ('"' :: s.toList.flatMap quotedChar ++ ['"'])

end ObjectRelay
