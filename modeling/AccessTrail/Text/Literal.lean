import AccessTrail.Text.Graphic
import AccessTrail.Text.Extender
import AccessTrail.Text.Hex

namespace AccessTrail.Text

def literalChar (c : Char) : List Char :=
  match c.toNat with
  | 0x00 => ['\\', '0']
  | 0x09 => ['\\', 't']
  | 0x0A => ['\\', 'n']
  | 0x0D => ['\\', 'r']
  | 0x22 => ['\\', '"']
  | 0x5C => ['\\', '\\']
  | n =>
    if isExtender c || !isGraphic c then
      ['\\', 'u', Char.ofNat 0x7B] ++ Hex.digits n ++ [Char.ofNat 0x7D]
    else [c]

def literal (s : String) : String :=
  String.ofList ('"' :: (s.toList.flatMap literalChar ++ ['"']))

def tick (s : String) : String := String.ofList (Char.ofNat 0x60 :: (s.toList ++ [Char.ofNat 0x60]))

end AccessTrail.Text
