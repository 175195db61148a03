import AccessTrail.Text.Utf8
import AccessTrail.Text.Hex
import AccessTrail.Text.Printable

namespace AccessTrail.Text

def shortEscape (c : Char) : Option Char :=
  match c.toNat with
  | 0x22 => some '"'
  | 0x5C => some '\\'
  | 0x0A => some 'n'
  | 0x0D => some 'r'
  | 0x09 => some 't'
  | 0x07 => some 'a'
  | 0x08 => some 'b'
  | 0x0C => some 'f'
  | 0x0B => some 'v'
  | _ => none

def escapeByte (b : UInt8) : List Char := '\\' :: 'x' :: Hex.padded 2 b.toNat

def escapeChar (c : Char) : List Char :=
  match shortEscape c with
  | some e => ['\\', e]
  | none =>
    if c.toNat < 0x20 || c.toNat == 0x7F then '\\' :: 'x' :: Hex.padded 2 c.toNat
    else if isPrintable c then [c]
    else if c.toNat ≤ 0xFFFF then '\\' :: 'u' :: Hex.padded 4 c.toNat
    else '\\' :: 'U' :: Hex.padded 8 c.toNat

def escapePiece : Utf8.Piece → List Char
  | .char c => escapeChar c
  | .stray bs => bs.flatMap escapeByte

def escape (bs : Bytes) : List Char := (Utf8.pieces bs).flatMap escapePiece

def quoteBytes (bs : Bytes) : List Char := '"' :: (escape bs ++ ['"'])

def quote (s : String) : List Char := quoteBytes (Utf8.ofString s)

def shortByte : Char → Option UInt8
  | '"' => some 0x22
  | '\\' => some 0x5C
  | 'n' => some 0x0A
  | 'r' => some 0x0D
  | 't' => some 0x09
  | 'a' => some 0x07
  | 'b' => some 0x08
  | 'f' => some 0x0C
  | 'v' => some 0x0B
  | _ => none

def hexEscape : Char → Option (Nat × Bool)
  | 'x' => some (2, true)
  | 'u' => some (4, false)
  | 'U' => some (8, false)
  | _ => none

def readQuoted : List Char → Option (Bytes × List Char)
  | [] => none
  | '"' :: rest => some ([], rest)
  | '\\' :: e :: rest =>
    match shortByte e, hexEscape e with
    | some b, _ => (readQuoted rest).map fun r => (b :: r.1, r.2)
    | none, some (width, asByte) =>
      match Hex.read? width rest with
      | some (n, _) =>
        (readQuoted (rest.drop width)).map fun r =>
          ((if asByte then [UInt8.ofNat n] else String.utf8EncodeChar (Char.ofNat n)) ++ r.1, r.2)
      | none => none
    | none, none => none
  | c :: rest => (readQuoted rest).map fun r => (String.utf8EncodeChar c ++ r.1, r.2)
termination_by cs => cs.length

def unquote : List Char → Option Bytes
  | '"' :: rest =>
    match readQuoted rest with
    | some (bs, []) => some bs
    | _ => none
  | _ => none

end AccessTrail.Text
