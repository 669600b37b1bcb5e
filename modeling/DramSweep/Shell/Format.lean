import DramSweep.Number.Layout
import DramSweep.Number.Reading
import DramSweep.Shell.Integer

/-!
Texts made after a format. A directive of the format takes an argument and lays it out in a field;
a format is used again as long as arguments are left. A backslash writes a character that is hard
to write otherwise.
-/

namespace DramSweep.Shell.Format

/-- The character that a letter behind a backslash stands for. -/
def escape? (c : Char) : Option Char :=
  match c with
  | 'a' => some '\x07'
  | 'b' => some '\x08'
  | 'e' => some '\x1b'
  | 'f' => some '\x0c'
  | 'n' => some '\n'
  | 'r' => some '\r'
  | 't' => some '\t'
  | 'v' => some '\x0b'
  | '\\' => some '\\'
  | _ => none

/-- The character of up to three octal digits, and the rest. -/
def octal (text : List Char) : Char × List Char :=
  let isMember := fun (c : Char) => '0' ≤ c && c ≤ '7'
  let run := (text.take 3).takeWhile isMember
  let number := run.foldl (fun n c => 8 * n + (c.toNat - '0'.toNat)) 0
  (Char.ofNat (number % 256), text.drop run.length)

/-- A text with its backslashes read, and whether one of them ends all printing. `fuel` bounds the
length. -/
def unescape : Nat → List Char → List Char × Bool
  | 0, text => (text, false)
  | fuel + 1, text =>
    let behind := fun (c : Char) (rest : List Char) =>
      let (more, ended) := unescape fuel rest
      (c :: more, ended)
    match text with
    | '\\' :: 'c' :: _ => ([], true)
    | '\\' :: '0' :: rest =>
      let (c, rest) := octal rest
      behind c rest
    | '\\' :: c :: rest =>
      if '0' ≤ c && c ≤ '7' then
        let (c, rest) := octal (c :: rest)
        behind c rest
      else match escape? c with
        | some c => behind c rest
        | none => behind '\\' (c :: rest)
    | c :: rest => behind c rest
    | [] => ([], false)

/-- A text with its backslashes read, and whether one of them ends all printing. -/
def unescaped (text : String) : String × Bool :=
  let (chars, ended) := unescape text.length text.toList
  (String.ofList chars, ended)

/-- What stands between the sign of a directive and its letter. -/
structure Field where
  left : Bool := false
  plus : Bool := false
  space : Bool := false
  alternate : Bool := false
  zeros : Bool := false
  width : Nat := 0
  precision : Option Nat := none
  deriving Repr, DecidableEq

namespace Field

def pad (field : Field) (text : String) : String :=
  let fill := String.ofList (List.replicate (field.width - text.length) ' ')
  if field.left then text ++ fill else fill ++ text

/-- Lays out a number. Zeros fill the field between what is in front of the digits and the
digits. -/
def padNumber (field : Field) (zeros : Bool) (front digits : String) : String :=
  let missing := field.width - (front.length + digits.length)
  if zeros && !field.left then front ++ Number.Layout.zeros missing ++ digits
  else field.pad (front ++ digits)

/-- What stands in front of the digits of a number with a sign. -/
def sign (field : Field) (negative : Bool) : String :=
  if negative then "-" else if field.plus then "+" else if field.space then " " else ""

/-- Digits with zeros in front up to the precision. A zero of no precision has no digits. -/
def precise (field : Field) (digits : List Char) : String :=
  match field.precision with
  | some 0 => if digits = ['0'] then "" else String.ofList digits
  | some precision => Number.Layout.zeros (precision - digits.length) ++ String.ofList digits
  | none => String.ofList digits

/-- Lays out an integer with a sign. -/
def signed (field : Field) (n : Int) : String :=
  field.padNumber (field.zeros && field.precision.isNone) (field.sign (n < 0))
    (field.precise (Nat.toDigits 10 n.natAbs))

/-- Lays out an integer without a sign in a base. -/
def unsigned (field : Field) (letter : Char) (n : Nat) : String :=
  let base := if letter = 'o' then 8 else if letter = 'u' then 10 else 16
  let digits := Nat.toDigits base n
  let digits := if letter = 'X' then digits.map Char.toUpper else digits
  let text := field.precise digits
  let front :=
    if !field.alternate then ""
    else if letter = 'o' then (if text.toList.head? = some '0' then "" else "0")
    else if letter = 'u' || n = 0 then ""
    else if letter = 'X' then "0X" else "0x"
  field.padNumber (field.zeros && field.precision.isNone) front text

end Field

def positional (places : Nat) (alternate : Bool) (scaled : Nat) : String :=
  let digits := Nat.toDigits 10 scaled
  if places = 0 then String.ofList digits ++ (if alternate then "." else "")
  else Number.Layout.withPoint digits places

/-- A value scaled by a power of ten and rounded to an integer, a half to the even one. -/
def scaled (m : Nat) (q places : Int) : Nat :=
  let (num, den) := Number.Shortest.unit q (-places)
  Number.roundDiv (m * num) den

/-- The digits of a value, one more than the precision, and the place of the first one. -/
def scientific (precision : Nat) (m : Nat) (q : Int) : Nat × Int :=
  if m = 0 then (0, 0)
  else
    let place := Number.Shortest.leadingPlace m q
    let digits := scaled m q (precision - place)
    if Nat.pow 10 (precision + 1) ≤ digits then (digits / 10, place + 1) else (digits, place)

/-- An exponent with its sign and at least two digits. -/
def exponent (place : Int) : String :=
  let digits := Nat.repr place.natAbs
  (if place < 0 then "e-" else "e+") ++ Number.Layout.zeros (2 - digits.length) ++ digits

/-- A text without zeros at the end of its fraction, and without a point at its end. -/
def dropZeros (text : String) : String :=
  if !text.toList.contains '.' then text
  else
    let kept := text.toList.reverse.dropWhile (· = '0')
    String.ofList (if kept.head? = some '.' then kept.tail else kept).reverse

/-- The digits of a value after the letter of a directive. -/
def realDigits (letter : Char) (precision : Nat) (alternate : Bool) (m : Nat) (q : Int) :
    String :=
  match letter with
  | 'f' => positional precision alternate (scaled m q precision)
  | 'e' =>
    let (digits, place) := scientific precision m q
    positional precision alternate digits ++ exponent place
  | _ =>
    let precision := max precision 1
    let (digits, place) := scientific (precision - 1) m q
    let trimmed := fun text => if alternate then text else dropZeros text
    if -4 ≤ place ∧ place < precision then
      let places := (precision - 1 - place).toNat
      trimmed (positional places alternate (scaled m q places))
    else trimmed (positional (precision - 1) alternate digits) ++ exponent place

/-- Lays out a double. -/
def Field.real (field : Field) (letter : Char) (x : Float) : String :=
  let lower := letter.toLower
  let text := fun (digits : String) =>
    if letter = lower then digits else String.ofList (digits.toList.map Char.toUpper)
  match Number.classify x with
  | .undefined => field.padNumber false (field.sign false) (text "nan")
  | .infinite negative => field.padNumber false (field.sign negative) (text "inf")
  | .finite negative m q =>
    field.padNumber field.zeros (field.sign negative)
      (text (realDigits lower (field.precision.getD 6) field.alternate m q))

/-- What became of a format so far. -/
structure Printed where
  text : String := ""
  arguments : List String
  isSound : Bool := true
  isEnded : Bool := false
  /-- Whether there was a directive that means nothing. -/
  isBroken : Bool := false
  deriving Repr, DecidableEq

namespace Printed

def add (printed : Printed) (text : String) : Printed :=
  { printed with text := printed.text ++ text }

def take (printed : Printed) : Option String × Printed :=
  (printed.arguments.head?, { printed with arguments := printed.arguments.tail })

def quotedChar? (argument : String) : Option Nat :=
  match argument.toList with
  | quote :: rest =>
    if quote = '\x27' || quote = '"' then some ((rest.headD '\x00').toNat) else none
  | [] => none

/-- Takes an integer. What follows it in the argument is a mistake. -/
def takeInteger (printed : Printed) : Int × Printed :=
  match printed.take with
  | (none, printed) => (0, printed)
  | (some argument, printed) =>
    match quotedChar? argument with
    | some n => (n, printed)
    | none =>
      let reading := Integer.read true argument.toList
      let isSound := reading.rest.isEmpty && !reading.isBeyond
      (reading.value, { printed with isSound := printed.isSound && isSound })

/-- Takes an integer without a sign; a negative one counts from the top. -/
def takeUnsigned (printed : Printed) : Nat × Printed :=
  match printed.arguments.head?.map fun argument =>
      Integer.digits 10 (argument.toList.dropWhile Integer.isSpace) with
  | some (n, true, []) =>
    let isSound := n < Integer.modulus
    ((min n (Integer.modulus - 1)),
      { printed.take.2 with isSound := printed.isSound && isSound })
  | _ =>
    let (n, printed) := printed.takeInteger
    ((n % Integer.modulus).toNat, printed)

/-- The double that the longest possible front of a text denotes, and whether that is all of it. -/
def readReal (text : List Char) : Float × Bool :=
  let text := text.dropWhile Integer.isSpace
  let found := (List.range text.length).findSome? fun (cut : Nat) =>
    (Number.readFloat? (text.take (text.length - cut))).map fun x => (x, decide (cut = 0))
  found.getD (0, decide (text = []))

def takeReal (printed : Printed) : Float × Printed :=
  match printed.take with
  | (none, printed) => (0, printed)
  | (some argument, printed) =>
    match quotedChar? argument with
    | some n => (Float.ofNat n, printed)
    | none =>
      let (x, isWhole) := readReal argument.toList
      let isSound := isWhole && !(x.isInf && argument.toList.any Char.isDigit)
      (x, { printed with isSound := printed.isSound && isSound })

def directive (printed : Printed) (field : Field) (letter : Char) : Printed :=
  let cut := fun (text : String) => match field.precision with
    | some precision => String.ofList (text.toList.take precision)
    | none => text
  if letter = 's' then
    let (argument, printed) := printed.take
    printed.add (field.pad (cut (argument.getD "")))
  else if letter = 'b' then
    let (argument, printed) := printed.take
    let (text, isEnded) := unescaped (argument.getD "")
    { printed.add (field.pad (cut text)) with isEnded }
  else if letter = 'c' then
    let (argument, printed) := printed.take
    printed.add (field.pad (((argument.getD "").toList.headD '\x00').toString))
  else if letter = 'd' || letter = 'i' then
    let (n, printed) := printed.takeInteger
    printed.add (field.signed n)
  else if letter = 'o' || letter = 'u' || letter = 'x' || letter = 'X' then
    let (n, printed) := printed.takeUnsigned
    printed.add (field.unsigned letter n)
  else if "eEfFgG".toList.contains letter then
    let (x, printed) := printed.takeReal
    printed.add (field.real letter x)
  else { printed with isBroken := true }

/-- Takes a width or precision off a format: digits, or a star that takes an argument. -/
def takeNumber (printed : Printed) (format : List Char) : Option Int × List Char × Printed :=
  match format with
  | '*' :: rest =>
    let (n, printed) := printed.takeInteger
    (some n, rest, printed)
  | format =>
    let (n, isPresent, rest) := Integer.digits 10 format
    (if isPresent then some (n : Int) else none, rest, printed)

def flags (field : Field) : List Char → Field × List Char
  | '-' :: rest => flags { field with left := true } rest
  | '+' :: rest => flags { field with plus := true } rest
  | ' ' :: rest => flags { field with space := true } rest
  | '#' :: rest => flags { field with alternate := true } rest
  | '0' :: rest => flags { field with zeros := true } rest
  | rest => (field, rest)

/-- Prints after a format once. `fuel` bounds its length. -/
def once : Nat → List Char → Printed → Printed
  | 0, _, printed => printed
  | fuel + 1, format, printed =>
    if printed.isEnded || printed.isBroken then printed
    else match format with
    | [] => printed
    | '%' :: '%' :: rest => once fuel rest (printed.add "%")
    | '%' :: rest =>
      let (field, rest) := flags {} rest
      let (width, rest, printed) := printed.takeNumber rest
      let width := width.getD 0
      let field := { field with width := width.natAbs, left := field.left || width < 0 }
      let (precision, rest, printed) := match rest with
        | '.' :: rest =>
          let (precision, rest, printed) := printed.takeNumber rest
          (some (precision.getD 0), rest, printed)
        | rest => (none, rest, printed)
      let field := { field with precision := (precision.filter (0 ≤ ·)).map Int.toNat }
      match rest with
      | [] => { printed with isBroken := true }
      | letter :: rest => once fuel rest (printed.directive field letter)
    | '\\' :: c :: rest =>
      if '0' ≤ c && c ≤ '7' then
        let (c, rest) := octal (c :: rest)
        once fuel rest (printed.add c.toString)
      else match escape? c with
        | some c => once fuel rest (printed.add c.toString)
        | none => once fuel (c :: rest) (printed.add "\\")
    | c :: rest => once fuel rest (printed.add c.toString)

/-- Prints after a format until the arguments are used up. `fuel` bounds their number. -/
def repeated (format : List Char) : Nat → Printed → Printed
  | 0, printed => once format.length format printed
  | fuel + 1, printed =>
    let after := once format.length format printed
    if after.arguments = [] || after.arguments.length = printed.arguments.length ||
        after.isEnded || after.isBroken then after
    else repeated format fuel after

end Printed

def print (format : String) (arguments : List String) : String × Nat :=
  let printed := Printed.repeated format.toList arguments.length { arguments }
  (printed.text, if printed.isBroken then 2 else if printed.isSound then 0 else 1)

end DramSweep.Shell.Format
