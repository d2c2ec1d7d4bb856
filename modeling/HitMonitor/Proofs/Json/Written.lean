import HitMonitor.Json.Lexeme
import HitMonitor.Json.Value

/-!
# Written documents as bytes

Documents are written as characters and read as bytes.  Everything a reader meets in a compact
document is one of a few lists of bytes that follow the document's own structure: the digits of a
natural, a text between quotes, members with commas between them.
-/

namespace HitMonitor

/-- The loop over an array of bytes puts those from its position on behind the ones it has taken. -/
theorem toList_loop (bytes : ByteArray) (position : Nat) (taken : List UInt8) :
    ByteArray.toList.loop bytes position taken =
      taken.reverse ++ bytes.data.toList.drop position := by
  fun_induction ByteArray.toList.loop bytes position taken with
  | case1 position taken inside ih =>
      have here : position < bytes.data.toList.length := inside
      rw [ih, List.reverse_cons, List.append_assoc, List.drop_eq_getElem_cons here]
      simp only [List.cons_append, List.nil_append, Array.getElem_toList, ByteArray.get!]
      rw [getElem!_pos bytes.data position inside]
  | case2 position taken outside =>
      have behind : bytes.data.toList.length ≤ position := Nat.le_of_not_lt outside
      rw [List.drop_eq_nil_of_le behind, List.append_nil]

theorem toList_byteArray (bytes : ByteArray) : bytes.toList = bytes.data.toList := by
  rw [ByteArray.toList, toList_loop, List.reverse_nil, List.nil_append, List.drop_zero]

namespace Json

/-- The bytes of characters. -/
def encode (characters : List Char) : Bytes := characters.flatMap String.utf8EncodeChar

theorem encode_cons (character : Char) (rest : List Char) :
    encode (character :: rest) = String.utf8EncodeChar character ++ encode rest :=
  List.flatMap_cons

@[simp] theorem encode_append (front behind : List Char) :
    encode (front ++ behind) = encode front ++ encode behind :=
  List.flatMap_append

/-- The bytes of a text are those of its characters. -/
theorem toList_toUTF8 (text : String) : text.toUTF8.toList = encode text.toList := by
  rw [toList_byteArray, String.toUTF8, ← String.utf8Encode_toList, List.utf8Encode,
    List.data_toByteArray]
  rfl

/-! ## Documents -/

/-- The bytes of a document without blanks. -/
def bytes (document : Json) : Bytes := encode document.compactChars

theorem toList_toUTF8_compact (document : Json) :
    document.compact.toUTF8.toList = document.bytes := by
  rw [toList_toUTF8, compact, String.toList_ofList, bytes]

/-- The bytes of a text between quotes. -/
def quotedBytes (text : String) : Bytes := code '"' :: (encode text.toList ++ [code '"'])

theorem encode_quotedKey (key : String) : encode (quotedKey key) = quotedBytes key := by
  rw [quotedKey, encode_append, encode_cons]
  rfl

/-- The bytes of a key and of the value behind it. -/
def memberBytes (key : String) (value : Bytes) : Bytes := quotedBytes key ++ code ':' :: value

/-- The bytes of members and of the closing brace.  Every member but the first has a comma before
it. -/
def membersBytes : (isFirst : Bool) → List (String × Bytes) → Bytes
  | _, [] => [code '\x7d']
  | isFirst, (key, value) :: members =>
      (if isFirst then [] else [code ',']) ++ (memberBytes key value ++ membersBytes false members)

theorem bytes_null : null.bytes = [code 'n', code 'u', code 'l', code 'l'] := by
  rw [bytes, compactChars]
  rfl

theorem bytes_natural (value : Nat) : (natural value).bytes = encode (Nat.toDigits 10 value) := by
  rw [bytes, compactChars, Nat.toString_eq_repr, Nat.toList_repr]

theorem bytes_text (value : String) : (text value).bytes = quotedBytes value := by
  rw [bytes, compactChars, encode_quotedKey]

/-- The characters of a member. -/
def memberChars (member : String × Json) : List Char :=
  quotedKey member.1 ++ ':' :: member.2.compactChars

theorem encode_memberChars (key : String) (value : Json) :
    encode (memberChars (key, value)) = memberBytes key value.bytes := by
  rw [memberChars, encode_append, encode_quotedKey, encode_cons]
  rfl

theorem compactChars_object (members : List (String × Json)) :
    (object members).compactChars =
      '\x7b' :: separated [','] (members.map memberChars) ++ ['\x7d'] := by
  rw [compactChars, ← List.attach_map_val (l := members) (f := memberChars)]
  rfl

/-- Members with commas between them are a first one and others with a comma before each. -/
theorem encode_separated_cons (key : String) (value : Json) (members : List (String × Json)) :
    encode (separated [','] (((key, value) :: members).map memberChars) ++ ['\x7d']) =
      memberBytes key value.bytes ++
        membersBytes false (members.map fun member => (member.1, member.2.bytes)) := by
  induction members generalizing key value with
  | nil =>
      rw [separated, List.map_singleton, List.intercalate_singleton, encode_append,
        encode_memberChars]
      rfl
  | cons second members ih =>
      obtain ⟨secondKey, secondValue⟩ := second
      rw [separated, List.map_cons, List.map_cons, List.intercalate_cons_cons, ← List.map_cons,
        ← separated, List.append_assoc, List.append_assoc, encode_append, encode_append,
        ih secondKey secondValue, encode_memberChars]
      rfl

/-- An object is its opening brace, its members and its closing brace. -/
theorem bytes_object (members : List (String × Json)) :
    (object members).bytes =
      code '\x7b' :: membersBytes true (members.map fun member => (member.1, member.2.bytes)) := by
  rw [bytes, compactChars_object, List.cons_append, encode_cons]
  cases members with
  | nil => rfl
  | cons first members => rw [encode_separated_cons]; rfl

end Json

end HitMonitor
