-- Text between quotation marks, as messages show text that a user wrote.
-- A reader sees where it starts and ends, a line break in it does not
-- break the message, and no two texts are shown alike.
import ServingOperator.Text.Unprintable

namespace ServingOperator.Text

/-- A character by number: its code point in hexadecimal, between braces. -/
def numbered (c : Char) : List Char :=
  ['\\', 'u', '\x7b'] ++ Nat.toDigits 16 c.toNat ++ ['\x7d']

/-- One character as it stands between quotation marks. The null
character, tab, line feed, carriage return, the quotation mark and the
backslash have short forms, what leaves no mark stands by number, and
everything else stands as it is. -/
def quotedChar (c : Char) : List Char :=
  if c = '\x00' then ['\\', '0']
  else if c = '\t' then ['\\', 't']
  else if c = '\n' then ['\\', 'n']
  else if c = '\r' then ['\\', 'r']
  else if c = '"' then ['\\', '"']
  else if c = '\\' then ['\\', '\\']
  else if unprintable c then numbered c
  else [c]

/-- The characters of a text between quotation marks. -/
def quotedChars (cs : List Char) : List Char :=
  '"' :: cs.flatMap quotedChar ++ ['"']

/-- A text between quotation marks. -/
def quoted (s : String) : String := String.ofList (quotedChars s.toList)

/-- An optional text: its quoted form inside `Some(..)`, or `None`. -/
def quotedOption : Option String → String
  | none => "None"
  | some s => "Some(" ++ quoted s ++ ")"

/-- A text without the carriage return at its end, if there is one. -/
def dropReturn (cs : List Char) : List Char :=
  if cs.getLast? = some '\r' then cs.dropLast else cs

/-- A text up to its first line break, which is a line feed with or without
a carriage return before it. -/
def firstLine (s : String) : String :=
  let line := s.toList.takeWhile (· ≠ '\n')
  String.ofList (if line.length < s.toList.length then dropReturn line else line)

/-- The first line of a text as it heads a report. The report ends the line
with a break of its own, of which a carriage return before it is a part. -/
def heading (s : String) : String := String.ofList (dropReturn (firstLine s).toList)

end ServingOperator.Text
