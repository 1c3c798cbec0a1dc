import ContractScan.Text.Numeral

/-!
# Percent-encoding

A byte may be written as a percent sign with two hexadecimal digits. Characters are encoded byte
by byte in their UTF-8 form.
-/

namespace ContractScan.Url

/-- The upper-case hexadecimal digits of a byte after a percent sign. -/
def percentByte (b : UInt8) : List Char :=
  '%' :: (Text.hexByte b.toNat).map Char.toUpper

/-- The character itself, or its bytes percent-encoded if it is in the set. -/
def percentEncodeChar (inSet : Char → Bool) (c : Char) : List Char :=
  if inSet c then (String.utf8EncodeChar c).flatMap percentByte else [c]

/-- The text with all characters of the set percent-encoded. -/
def percentEncode (inSet : Char → Bool) (s : List Char) : List Char :=
  s.flatMap (percentEncodeChar inSet)

/-- The bytes of the text, where a percent sign with two hexadecimal digits counts as one byte. -/
def percentDecode : List Char → List UInt8
  | '%' :: a :: b :: s =>
    match Text.hexDigit? a, Text.hexDigit? b with
    | some x, some y => UInt8.ofNat (16 * x + y) :: percentDecode s
    | _, _ => '%'.toUInt8 :: percentDecode (a :: b :: s)
  | c :: s => String.utf8EncodeChar c ++ percentDecode s
  | [] => []

/-- The text of a row of bytes, if they are one in UTF-8. -/
def utf8Decode? (bytes : List UInt8) : Option (List Char) :=
  (String.fromUTF8? bytes.toByteArray).map String.toList

/-- Control characters and all beyond ASCII. -/
def isControl (c : Char) : Bool := c.toNat < 0x20 || 0x7e < c.toNat

/-- What is percent-encoded in a fragment. -/
def fragmentSet (c : Char) : Bool := isControl c || [' ', '"', '<', '>', '`'].contains c

/-- What is percent-encoded in a path. -/
def pathSet (c : Char) : Bool := fragmentSet c || ['#', '?', '{', '}'].contains c

/-- What is percent-encoded in user information. -/
def userSet (c : Char) : Bool :=
  pathSet c || ['/', ':', ';', '=', '@', '[', '\\', ']', '^', '|'].contains c

/-- What is percent-encoded in a query. -/
def querySet (c : Char) : Bool := isControl c || [' ', '"', '<', '>', '#'].contains c

end ContractScan.Url
