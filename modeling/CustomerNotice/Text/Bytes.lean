/-!
Octet sequences and the texts they spell in UTF-8. Everything the program writes is text,
everything it is given may be arbitrary octets.
-/

namespace CustomerNotice

abbrev Bytes := List UInt8

namespace Bytes

def ofText (text : String) : Bytes := text.toList.flatMap String.utf8EncodeChar

def toText? (bytes : Bytes) : Option String := String.fromUTF8? bytes.toByteArray

@[simp] theorem ofText_append (left right : String) :
    ofText (left ++ right) = ofText left ++ ofText right := by
  simp [ofText]

@[simp] theorem ofText_empty : ofText "" = [] := by
  simp [ofText]

theorem toText?_ofText (text : String) : toText? (ofText text) = some text := by
  have bytes : (ofText text).toByteArray = text.toByteArray := by
    rw [← String.utf8Encode_toList]
    rfl
  rw [toText?, bytes, String.fromUTF8?, dif_pos text.isValidUTF8]
  rfl

theorem ofText_injective {left right : String} (same : ofText left = ofText right) :
    left = right := by
  have decoded := toText?_ofText left
  rw [same, toText?_ofText, Option.some.injEq] at decoded
  exact decoded.symm

end Bytes
end CustomerNotice
