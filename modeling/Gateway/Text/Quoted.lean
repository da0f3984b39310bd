import Gateway.Text.Escaped
/-!
A string written as a quoted literal for a log line: quote marks and backslashes are escaped,
tab, line feed, carriage return and NUL take their short escapes, and every other code point of
`escapedRanges` is written as `\u{hex}` with lower-case digits.
-/
namespace Gateway.Text

def lowerHex (n : Nat) : List Char :=
  if n < 16 then [Nat.digitChar n] else lowerHex (n / 16) ++ [Nat.digitChar (n % 16)]
termination_by n
decreasing_by omega

def escapeChar (c : Char) : List Char :=
  if c = '"' then ['\\', '"']
  else if c = '\\' then ['\\', '\\']
  else if c = '\t' then ['\\', 't']
  else if c = '\n' then ['\\', 'n']
  else if c = '\r' then ['\\', 'r']
  else if c = '\x00' then ['\\', '0']
  else if isEscaped c then ['\\', 'u', '\x7b'] ++ lowerHex c.toNat ++ ['\x7d']
  else [c]

def quoted (s : String) : String :=
  String.ofList ('"' :: s.toList.flatMap escapeChar ++ ['"'])

end Gateway.Text
