import SealedKeys.Bytes

/-!
Writing DER elements: a tag, the length of the content, and the content.

A length below one hundred and twenty-eight is one byte; a greater one is the number of its
bytes, with the top bit set, and then those bytes. A natural number is an integer with a zero
byte in front when its top bit is set, so that it is not read as negative.
-/

namespace SealedKeys

namespace Der

/-- The number of an element's kind. -/
abbrev Tag := UInt8

namespace Tag

def boolean : Tag := 0x01
def integer : Tag := 0x02
def bitString : Tag := 0x03
def octetString : Tag := 0x04
def null : Tag := 0x05
def objectIdentifier : Tag := 0x06
def utf8String : Tag := 0x0c
def printableString : Tag := 0x13
def teletexString : Tag := 0x14
def ia5String : Tag := 0x16
def utcTime : Tag := 0x17
def generalizedTime : Tag := 0x18
def sequence : Tag := 0x30
def set : Tag := 0x31

end Tag

/-- The length field of an element. -/
def lengthField (length : Nat) : Bytes :=
  if length < 128 then [UInt8.ofNat length]
  else UInt8.ofNat (128 + byteLength length) :: Bytes.minimal length

/-- An element with the given tag and content. -/
def element (tag : Tag) (content : Bytes) : Bytes :=
  tag :: lengthField content.length ++ content

/-- The content of the integer element of a natural number. -/
def integerContent (value : Nat) : Bytes :=
  match Bytes.minimal value with
  | [] => [0]
  | first :: rest => if first < 128 then first :: rest else 0 :: first :: rest

/-- A natural number as an integer element. -/
def integer (value : Nat) : Bytes :=
  element Tag.integer (integerContent value)

/-- Elements one after the other in a sequence. -/
def sequence (elements : List Bytes) : Bytes :=
  element Tag.sequence elements.flatten

/-- A string of whole bytes as a bit string. -/
def bitString (content : Bytes) : Bytes :=
  element Tag.bitString (0 :: content)

/-- The element that holds nothing. -/
def null : Bytes :=
  element Tag.null []

/-- A truth value that is true. -/
def true : Bytes :=
  element Tag.boolean [0xff]

/-- An element inside another one, numbered by the context. -/
def tagged (number : Nat) (content : Bytes) : Bytes :=
  element (UInt8.ofNat (0xa0 + number)) content

end Der

end SealedKeys
