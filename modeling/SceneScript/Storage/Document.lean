import SceneScript.Storage.Jpeg.Encode

/-!
# Documents

A document of pages has a picture as a photograph in one of its objects, behind those that say
which pages there are. What follows the photograph says when the document was made.
-/

namespace SceneScript.Document

/-- An object with a number and the entries of its dictionary. -/
def object (number : Nat) (entries : List String) : String :=
  toString number ++ " 0 obj\n<<" ++ String.join (entries.map ("\n/" ++ ·)) ++ "\n>>"

/-- The objects in front of the picture, and the beginning of its own. -/
def head (p : Picture) (size : Nat) : ByteArray :=
  ("%PDF-1.4\n% created by Pillow 12.0.0 PDF driver\n" ++
    object 4 ["Type /Catalog", "Pages 5 0 R"] ++ "endobj\n" ++
    object 5 ["Type /Pages", "Count 1", "Kids [ 2 0 R ]"] ++ "endobj\n" ++
    object 1 ["Type /XObject", "Subtype /Image", "Width " ++ toString p.width,
      "Height " ++ toString p.height, "Filter /DCTDecode", "BitsPerComponent 8",
      "ColorSpace /DeviceRGB", "Length " ++ toString size] ++ "stream\n").toUTF8

/-- A picture in bytes, to the end of its object. -/
def encode (p : Picture) : ByteArray :=
  let photograph := Jpeg.encode p
  head p photograph.size ++ photograph ++ "\nendstream\nendobj\n".toUTF8

end SceneScript.Document
