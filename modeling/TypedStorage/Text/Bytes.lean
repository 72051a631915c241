/-
Text as the bytes of its UTF-8 form, and back where the bytes are such a form.
-/
namespace TypedStorage.Text

def utf8Bytes (s : String) : List UInt8 := s.toUTF8.data.toList

def ofUtf8? (bytes : List UInt8) : Option String := String.fromUTF8? ⟨bytes.toArray⟩

end TypedStorage.Text
