import ReleasePage.Text.Bytes
import ReleasePage.Text.Case
import ReleasePage.Text.CodePoint

/-!
# Percent signs

A character that may not stand in its place is written by its bytes, each as a
percent sign and two hexadecimal digits. Which characters may not stand depends on
the part of the address.
-/

namespace ReleasePage.Web

open ReleasePage.Text (Bytes)

/-- A byte as a percent sign and two capital hexadecimal digits. -/
def percentByte (b : UInt8) : List Char :=
  '%' :: Text.asciiUpper (Nat.toDigits 16 (b.toNat / 16) ++ Nat.toDigits 16 (b.toNat % 16))

/-- A text in which the characters outside ASCII, the controls and those of
`reserved` are written by their bytes. -/
def percentEncoded (reserved : String) (text : List Char) : String :=
  String.ofList <| text.flatMap fun c =>
    if c.toNat < 0x20 ∨ 0x7F ≤ c.toNat ∨ reserved.toList.contains c then
      (Text.bytes (String.ofList [c])).flatMap percentByte
    else [c]

/-- The bytes of a text in which a percent sign and two digits stand for a
byte. -/
def percentDecoded : List Char → Bytes
  | [] => []
  | '%' :: a :: b :: rest =>
    match Text.hexDigit? a, Text.hexDigit? b with
    | some high, some low => (16 * high + low).toUInt8 :: percentDecoded rest
    | _, _ => Text.bytes "%" ++ percentDecoded (a :: b :: rest)
  | c :: rest => Text.bytes (String.ofList [c]) ++ percentDecoded rest

/-- Characters that may not stand in a fragment. -/
def fragmentReserved : String := " \"<>`"

/-- Characters that may not stand in a path. -/
def pathReserved : String := fragmentReserved ++ "#?\x7b\x7d"

/-- Characters that may not stand in the name or the password of a user. -/
def userReserved : String := pathReserved ++ "/:;=@[\\]^|"

/-- Characters that may not stand in a query of an address with a scheme of its
own. -/
def foreignQueryReserved : String := " \"#<>"

/-- Characters that may not stand in a query. -/
def queryReserved : String := foreignQueryReserved ++ String.ofList [Char.ofNat 39]

end ReleasePage.Web
