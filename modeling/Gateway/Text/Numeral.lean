/-!
Decimal numerals of unsigned 32-bit words: an optional plus sign, then one or more ASCII digits
whose value is below 2^32. Leading zeros are allowed; nothing else is.
-/
namespace Gateway.Text

def digitsValue (ds : List Char) : Nat := ds.foldl (fun acc c => acc * 10 + (c.toNat - '0'.toNat)) 0

def readWord? (s : String) : Option UInt32 :=
  let ds := match s.toList with
    | '+' :: rest => rest
    | cs => cs
  if ds.isEmpty || !ds.all Char.isDigit then none
  else
    let n := digitsValue ds
    if n < UInt32.size then some n.toUInt32 else none

end Gateway.Text
