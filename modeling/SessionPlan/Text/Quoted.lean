/-
Quoted text: how a text is shown inside a message.

A quoted text stands between double quotes. Six characters have a short escape; a character that
joins the one before it, or that has no shape of its own, is written by its number in hexadecimal;
every other character stands for itself. An apostrophe needs no escape here.

The halfwidth sound marks of Katakana count among the joining characters, but they take up a cell of
their own and are drawn apart from what precedes them. They stand for themselves.
-/
import SessionPlan.Text.GraphemeExtend
import SessionPlan.Text.Unprintable

set_option autoImplicit false

namespace SessionPlan.Text

/-- A character by its number: lower-case hexadecimal digits without leading zeros, between
braces. -/
def numbered (c : Char) : List Char :=
  ['\\', 'u', '\x7b'] ++ Nat.toDigits 16 c.toNat ++ ['\x7d']

/-- Whether a character is a halfwidth sound mark of Katakana, U+FF9E or U+FF9F. -/
def isSoundMark (c : Char) : Bool := c = '\uFF9E' || c = '\uFF9F'

/-- Whether a character is drawn on the one before it. -/
def isJoining (c : Char) : Bool := isGraphemeExtend c && !isSoundMark c

/-- One character of a quoted text. -/
def quotedChar (c : Char) : List Char :=
  if c = '\x00' then ['\\', '0']
  else if c = '\t' then ['\\', 't']
  else if c = '\r' then ['\\', 'r']
  else if c = '\n' then ['\\', 'n']
  else if c = '\\' then ['\\', '\\']
  else if c = '"' then ['\\', '"']
  else if isJoining c || isUnprintable c then numbered c
  else [c]

/-- A text between double quotes. -/
def quoted (s : String) : String :=
  String.ofList ('"' :: s.toList.flatMap quotedChar ++ ['"'])

end SessionPlan.Text
