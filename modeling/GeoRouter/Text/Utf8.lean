import GeoRouter.Bytes

/-!
# Text as octets

The octets of a text in UTF-8, and the text of octets, where an octet that begins no character
stands for the replacement character.
-/

namespace GeoRouter.Utf8

def encode (s : String) : Bytes := s.toList.flatMap String.utf8EncodeChar

def replacement : Char := Char.ofNat 0xfffd

def front? (b : Bytes) : Option Char := (ByteArray.mk (b.take 4).toArray).utf8DecodeChar? 0

def characters : Bytes → List Char
  | [] => []
  | octet :: rest =>
    match front? (octet :: rest) with
    | some c => c :: characters (rest.drop (c.utf8Size - 1))
    | none => replacement :: characters rest
  termination_by b => b.length
  decreasing_by all_goals simp only [List.length_drop, List.length_cons]; omega

def decode (b : Bytes) : String := String.ofList (characters b)

end GeoRouter.Utf8
