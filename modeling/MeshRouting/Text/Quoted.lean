import MeshRouting.Text.ExtendingMarks
import MeshRouting.Text.Unprintable

/-!
Text quoted for a diagnostic: what could hide in a message or end the quotation is
written as an escape.
-/

namespace MeshRouting.Text

/-- Letters without a shape, which hold the place of one in a Hangul syllable. -/
def hangulFillers : CodeRanges := [(0x115F, 0x1160), (0x3164, 0x3164), (0xFFA0, 0xFFA0)]

/-- Characters that a diagnostic shows as they are. The tables begin above ASCII. -/
def isShown (c : Char) : Bool :=
  if c.toNat < 0x80 then 0x20 ≤ c.toNat && c.toNat < 0x7F
  else !unprintable.contains c && !extendingMarks.contains c && !hangulFillers.contains c

def quotedChar (c : Char) : List Char :=
  if c = '"' || c = '\\' then ['\\', c]
  else if c = '\n' then ['\\', 'n']
  else if c = '\r' then ['\\', 'r']
  else if c = '\t' then ['\\', 't']
  else if c.toNat = 0 then ['\\', '0']
  else if isShown c then [c]
  else ['\\', 'u', '\x7b'] ++ Nat.toDigits 16 c.toNat ++ ['\x7d']

def quoted (s : String) : String :=
  String.ofList ('"' :: (s.toList.flatMap quotedChar ++ ['"']))

end MeshRouting.Text
