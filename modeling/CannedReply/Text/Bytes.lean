/-!
Bytes, as they come over a connection or stand in a file.
-/

namespace CannedReply

abbrev Bytes := List UInt8

namespace Bytes

def ofText (s : String) : Bytes :=
  s.toUTF8.data.toList

theorem ofText_append (s t : String) : ofText (s ++ t) = ofText s ++ ofText t := by
  simp [ofText]

theorem ofText_ofList (cs : List Char) :
    ofText (String.ofList cs) = cs.flatMap String.utf8EncodeChar := by
  rw [ofText, String.toUTF8, String.toByteArray_ofList, List.utf8Encode,
    List.toList_data_toByteArray]

/-- The text that has these bytes, if there is one. -/
def toText? (b : Bytes) : Option String :=
  String.fromUTF8? ⟨b.toArray⟩

def lower (b : UInt8) : UInt8 :=
  if 0x41 ≤ b && b ≤ 0x5a then b + 0x20 else b

/-- Whether bytes spell a word, whatever the case of its letters. -/
def spells (word : String) (b : Bytes) : Bool :=
  b.map lower = (ofText word).map lower

end Bytes

end CannedReply
