import Messaging.Text.Hex

/-!
Writing JSON without blanks. A quote, a backslash and the control characters are escaped, in the
short form where there is one; all else stands for itself.
-/
namespace Messaging.Json

/-- A byte of a text as it is written in a string. -/
def escapeByte (b : UInt8) : Bytes :=
  match b with
  | 0x22 => [0x5C, 0x22]
  | 0x5C => [0x5C, 0x5C]
  | 0x08 => [0x5C, 0x62]
  | 0x09 => [0x5C, 0x74]
  | 0x0A => [0x5C, 0x6E]
  | 0x0C => [0x5C, 0x66]
  | 0x0D => [0x5C, 0x72]
  | b =>
    if b < 0x20 then [0x5C, 0x75, 0x30, 0x30] ++ Utf8.encode (Hex.ofByte b) else [b]

def string (s : String) : Bytes := 0x22 :: ((Utf8.ofString s).flatMap escapeByte ++ [0x22])

def flag (value : Bool) : Bytes := Utf8.ofString (if value then "true" else "false")

def member (name : String) (value : Bytes) : Bytes := string name ++ 0x3A :: value

def commaSeparated : List Bytes → Bytes
  | [] => []
  | [item] => item
  | item :: items => item ++ 0x2C :: commaSeparated items

def object (members : List Bytes) : Bytes := 0x7B :: (commaSeparated members ++ [0x7D])

end Messaging.Json
