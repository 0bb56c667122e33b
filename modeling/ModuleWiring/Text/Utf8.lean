/-
Texts as bytes.

Files hold bytes; a text is stored in the encoding UTF-8.

* `decode_eq_some_iff` — reading accepts exactly what writing produces, so each
  text has one stored form.
-/
import ModuleWiring.Text.Basic

namespace ModuleWiring

/-- The content of a file. -/
abbrev Bytes := List UInt8

namespace Text

/-- The stored form of a text. -/
def encode (t : Text) : Bytes :=
  t.flatMap String.utf8EncodeChar

/-- The text that bytes store, if they store one. -/
def decode (b : Bytes) : Option Text :=
  b.toByteArray.utf8Decode?.map Array.toList

theorem toByteArray_encode (t : Text) : (encode t).toByteArray = t.utf8Encode := by
  simp [encode, List.utf8Encode]

theorem decode_encode (t : Text) : decode (encode t) = some t := by
  simp [decode, toByteArray_encode]

theorem eq_encode_of_decode {b : Bytes} {t : Text} (h : decode b = some t) : b = encode t := by
  obtain ⟨a, ha, rfl⟩ := Option.map_eq_some_iff.1 h
  have hsome : b.toByteArray.utf8Decode?.isSome := by simp [ha]
  have hget : (b.toByteArray.utf8Decode?.get hsome).toList.utf8Encode = b.toByteArray :=
    ByteArray.utf8Encode_get_utf8Decode?
  simp only [ha, Option.get_some, ← toByteArray_encode, List.toByteArray_inj] at hget
  exact hget.symm

theorem decode_eq_some_iff {b : Bytes} {t : Text} : decode b = some t ↔ b = encode t :=
  ⟨eq_encode_of_decode, fun h => h ▸ decode_encode t⟩

end Text

end ModuleWiring
