/-
# Quoted texts

A text between quotation marks, in which no character can be mistaken for
another or go unseen.

| character | written |
| --- | --- |
| quotation mark, backslash | after a backslash |
| tab, return, newline, zero | `\t`, `\r`, `\n`, `\0` |
| one that does not show (`Invisible`) | `\u`, then its code in hexadecimal between braces |
| any other | itself |
-/
import Mqtt.Text.Invisible

namespace Mqtt
namespace Quoted

/-- The written form of one character. -/
def character (c : Char) : List Char :=
  if c = '"' || c = '\\' then ['\\', c]
  else if c = '\t' then ['\\', 't']
  else if c = '\r' then ['\\', 'r']
  else if c = '\n' then ['\\', 'n']
  else if c.toNat = 0 then ['\\', '0']
  else if Invisible.holds c then ['\\', 'u', '\x7b'] ++ Nat.toDigits 16 c.toNat ++ ['\x7d']
  else [c]

/-- The text between quotation marks. -/
def quote (s : String) : String :=
  String.ofList ('"' :: s.toList.flatMap character ++ ['"'])

end Quoted
end Mqtt
