/-!
Text as bytes. Text is written in UTF-8, and a byte string is text exactly when it is well
formed UTF-8: no surrogate, no overlong form, nothing cut short. Reading and writing undo
each other in both directions.
-/

namespace AccessWeave.Text

def toBytes (text : String) : List UInt8 := text.toByteArray.data.toList

def ofBytes (bytes : List UInt8) : Option String :=
  String.fromUTF8? (ByteArray.mk bytes.toArray)

theorem of_bytes_to_bytes (text : String) : ofBytes (toBytes text) = some text := by
  have same : ByteArray.mk (toBytes text).toArray = text.toByteArray := by
    simp [toBytes]
  unfold ofBytes String.fromUTF8?
  rw [same, dif_pos text.isValidUTF8]
  rfl

theorem to_bytes_of_bytes {bytes : List UInt8} {text : String}
    (read : ofBytes bytes = some text) : toBytes text = bytes := by
  unfold ofBytes String.fromUTF8? at read
  by_cases valid : (ByteArray.mk bytes.toArray).IsValidUTF8
  · rw [dif_pos valid] at read
    cases read
    rfl
  · rw [dif_neg valid] at read
    cases read

end AccessWeave.Text
