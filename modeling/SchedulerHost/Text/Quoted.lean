import SchedulerHost.Text.Hidden

/-!
# Quoted texts

How a text is shown inside a message: between double quotes, with the quote, the backslash and
whatever would not show written as escapes. Lists are shown the same way, between brackets.
-/

namespace SchedulerHost.Text

/-- Lower-case hexadecimal digits without leading zeros. -/
def hexDigits (n : Nat) : List Char := Nat.toDigits 16 n

def quotedChar (c : Char) : List Char :=
  if c = '\x00' then ['\\', '0']
  else if c = '\t' then ['\\', 't']
  else if c = '\r' then ['\\', 'r']
  else if c = '\n' then ['\\', 'n']
  else if c = '\\' then ['\\', '\\']
  else if c = '"' then ['\\', '"']
  else if isHidden c then ['\\', 'u', '\x7b'] ++ hexDigits c.toNat ++ ['\x7d']
  else [c]

def quoted (s : String) : String :=
  String.ofList ('"' :: s.toList.flatMap quotedChar ++ ['"'])

/-- A list of texts, each between double quotes: `["a", "b"]`. -/
def quotedList (texts : List String) : String :=
  "[" ++ ", ".intercalate (texts.map quoted) ++ "]"

example : quoted "a\"b\\c\n'" = "\"a\\\"b\\\\c\\n'\"" := by decide
example : quoted "\x00\x01\x7f" = "\"\\0\\u\x7b1\x7d\\u\x7b7f\x7d\"" := by decide
example : quotedList [] = "[]" := by decide
example : quotedList ["a", "b"] = "[\"a\", \"b\"]" := by decide

end SchedulerHost.Text
