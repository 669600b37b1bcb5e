/-!
Comma-separated records. A field is put in quotes when it holds a comma, a quote or a line break,
or when it is the only field of its record and empty; inside quotes a quote is written twice.
Every record ends in a line feed.
-/

namespace DramSweep.Csv

/-- Whether a character forces its field into quotes. -/
def isSpecial (c : Char) : Bool :=
  c = ',' || c = '"' || c = '\n' || c = '\r'

def doubleQuotes (field : List Char) : List Char :=
  field.flatMap fun c => if c = '"' then ['"', '"'] else [c]

def quoted (field : List Char) : List Char :=
  '"' :: doubleQuotes field ++ ['"']

/-- A field as it stands in a record of several fields. -/
def fieldChars (field : List Char) : List Char :=
  if field.any isSpecial then quoted field else field

def recordChars : List (List Char) → List Char
  | [[]] => quoted [] ++ ['\n']
  | fields => [','].intercalate (fields.map fieldChars) ++ ['\n']

def record (fields : List String) : String :=
  String.ofList (recordChars (fields.map String.toList))

def records : List (List String) → String
  | [] => ""
  | first :: rest => record first ++ records rest

theorem records_append (a b : List (List String)) : records (a ++ b) = records a ++ records b := by
  induction a with
  | nil => simp [records]
  | cons first rest ih => simp [records, ih, String.append_assoc]

end DramSweep.Csv
