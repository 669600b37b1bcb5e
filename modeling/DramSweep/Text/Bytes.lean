/-!
Byte strings and the lines of text in them. A file may hold any bytes; its lines are read up to
the first one that is not UTF-8. Writing text gives bytes that read back as that text.
-/

namespace DramSweep

abbrev Bytes := List UInt8

namespace Bytes

/-- The bytes of a text in UTF-8. -/
def ofText (text : String) : Bytes :=
  text.toByteArray.data.toList

/-- The text that the bytes spell in UTF-8, if they are well formed. -/
def text? (bytes : Bytes) : Option String :=
  String.fromUTF8? ⟨bytes.toArray⟩

/-- A line break ends a line: the byte 10, and one byte 13 in front of it. -/
def dropReturn (line : Bytes) : Bytes :=
  if line.getLast? = some 13 then line.dropLast else line

/-- The lines of a file as bytes, without their line breaks. What follows the last line break is
a line only if it is not empty, and keeps a trailing byte 13. -/
def rawLines (bytes : Bytes) : List Bytes :=
  match (bytes.splitOn 10).reverse with
  | [] => []
  | last :: ended =>
    let closed := (ended.map dropReturn).reverse
    if last = [] then closed else closed ++ [last]

/-- The texts of the longest run of lines from the start that are all UTF-8. -/
def decodeLines : List Bytes → List String
  | [] => []
  | line :: rest =>
    match text? line with
    | some text => text :: decodeLines rest
    | none => []

/-- The readable lines of a file: reading stops at the first line that is not UTF-8. -/
def lines (bytes : Bytes) : List String :=
  decodeLines (rawLines bytes)

@[simp] theorem text?_ofText (text : String) : text? (ofText text) = some text := by
  have h : text.toByteArray.IsValidUTF8 := text.isValidUTF8
  simp [text?, ofText, String.fromUTF8?, String.fromUTF8, h]

@[simp] theorem ofText_append (a b : String) : ofText (a ++ b) = ofText a ++ ofText b := by
  simp [ofText]

@[simp] theorem lines_nil : lines [] = [] := by
  simp [lines, rawLines, List.splitOn, decodeLines]

end Bytes

end DramSweep
