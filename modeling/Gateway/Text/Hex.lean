import Gateway.Text.Blank
/-!
Bytes as hexadecimal text: two digits a byte, the high half first. Written digits are lower
case; read digits may be of either case and blanks anywhere are skipped, even between the two
digits of a byte; an odd number of digits or any other character reads as nothing.
-/
namespace Gateway.Text

def hexDigit (n : Nat) : Char := if n < 10 then Char.ofNat (48 + n) else Char.ofNat (87 + n)

def hexValue? (c : Char) : Option Nat := "0123456789abcdef".toList.idxOf? c.toLower

def hex (bs : List UInt8) : String :=
  bs.foldl (fun s b => (s.push (hexDigit (b.toNat / 16))).push (hexDigit (b.toNat % 16))) ""

def unhexChars : List Char → Option (List UInt8)
  | [] => some []
  | [_] => none
  | a :: b :: rest => do
    let x ← hexValue? a
    let y ← hexValue? b
    let r ← unhexChars rest
    pure ((x * 16 + y).toUInt8 :: r)

def unhex? (s : String) : Option (List UInt8) := unhexChars (s.toList.filter fun c => !isBlank c)

end Gateway.Text
