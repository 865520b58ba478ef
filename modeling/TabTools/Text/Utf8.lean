/-!
# Bytes of a text

Texts travel as UTF-8. Every text has exactly one encoding, and bytes that are no encoding of a
text decode to nothing.
-/

namespace TabTools.Text

/-- The bytes of a text. -/
def encode (text : List Char) : List UInt8 := text.flatMap String.utf8EncodeChar

/-- The text that bytes encode. -/
def decode? (bytes : List UInt8) : Option (List Char) :=
  (String.fromUTF8? bytes.toByteArray).map String.toList

theorem encode_append (a b : List Char) : encode (a ++ b) = encode a ++ encode b := by
  simp [encode]

theorem decode?_encode (text : List Char) : decode? (encode text) = some text := by
  have h : (encode text).toByteArray = (String.ofList text).toByteArray := by
    simp [encode, String.toByteArray_ofList, List.utf8Encode]
  rw [decode?, h, String.fromUTF8?, dif_pos (String.ofList text).isValidUTF8]
  exact congrArg some (String.toList_ofList)

theorem encode_of_decode? {bytes : List UInt8} {text : List Char} (h : decode? bytes = some text) :
    encode text = bytes := by
  obtain ⟨s, hs, rfl⟩ := Option.map_eq_some_iff.1 h
  unfold String.fromUTF8? at hs
  split at hs
  · rename_i hvalid
    cases hs
    have hbytes := String.toByteArray_ofList (l := (String.fromUTF8 bytes.toByteArray hvalid).toList)
    rw [String.ofList_toList] at hbytes
    exact List.toByteArray_inj.1 hbytes.symm
  · cases hs

end TabTools.Text
