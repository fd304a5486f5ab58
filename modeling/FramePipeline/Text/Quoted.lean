import FramePipeline.Text.Extending
import FramePipeline.Text.Hex
import FramePipeline.Text.Unprintable

/-!
# Quoted text

A text inside double quotes, as error messages show it: the quote and the backslash are escaped with
a backslash, tab, line feed, carriage return and the zero character by a letter, and whatever could
not be told apart on a screen (unprintable characters and marks that attach to the character before
them) by its code point.

Main definition: `quoted`.
-/

namespace FramePipeline.Text

/-- One character inside quotes. -/
def quotedChar (c : Char) : List Char :=
  if c = '"' then ['\\', '"']
  else if c = '\\' then ['\\', '\\']
  else if c = '\t' then ['\\', 't']
  else if c = '\n' then ['\\', 'n']
  else if c = '\r' then ['\\', 'r']
  else if c.toNat = 0 then ['\\', '0']
  else if ' ' ≤ c && c ≤ '~' then [c]
  else if isExtending c || isUnprintable c then
    ['\\', 'u', Char.ofNat 0x7B] ++ Hex.shortest c.toNat ++ [Char.ofNat 0x7D]
  else [c]

/-- The text between double quotes, with everything escaped that could mislead a reader. -/
def quoted (s : String) : String :=
  String.ofList ('"' :: s.toList.flatMap quotedChar ++ ['"'])

end FramePipeline.Text
