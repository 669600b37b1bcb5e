import DramSweep.Shell.Pattern
import DramSweep.Shell.Utility

/-!
Programs that print the lines or characters of files, some of them or all of them in another
order, or count them.
-/

namespace DramSweep.Shell.Utility

def column (width : Nat) (number : Nat) : String :=
  let digits := Nat.repr number
  String.ofList (List.replicate (width - digits.length) ' ') ++ digits

/-- Prints operands one behind the other, with numbers in front of the lines if that is asked
for. -/
def cat : Program := withOptions "nu" "" 1 fun arguments => do
  let (found, complete) ← contents "cat" arguments.operands
  let text := String.join (found.map Prod.snd)
  let numbered := (linesOf text).zipIdx.map fun (line, number) =>
    column 6 (number + 1) ++ "\t" ++ line
  Run.print (if arguments.has 'n' then String.join numbered else text)
  if !complete then Run.finish 1

/-- The first or last parts of a text, as many as a count says. -/
def portion (fromStart : Bool) (count : Nat) (parts : List String) : List String :=
  if fromStart then parts.take count else parts.drop (parts.length - count)

/-- What a count makes of the parts of a text. One with a sign is counted from the other end. -/
def portion? (fromStart : Bool) (count : String) : Option (List String → List String) :=
  match count.toList with
  | '+' :: digits => (Integer.count? (String.ofList digits)).map fun n parts =>
      if fromStart then parts.take n else parts.drop (n - 1)
  | '-' :: digits => (Integer.count? (String.ofList digits)).map fun n parts =>
      if fromStart then parts.take (parts.length - n) else portion false n parts
  | _ => (Integer.count? count).map (portion fromStart)

/-- Arguments with a bare count in front spelled as an option with a value. -/
def withCount : List String → List String
  | argument :: rest =>
    match argument.toList with
    | '-' :: c :: digits =>
      if c.isDigit then "-n" :: String.ofList (c :: digits) :: rest else argument :: rest
    | _ => argument :: rest
  | [] => []

/-- Prints the first or the last lines or bytes of files. -/
def ends (program : String) (fromStart : Bool) : Program := fun arguments =>
  (withCount arguments) |> withOptions "qv" "nc" 1 fun arguments => do
    let (byBytes, count) := match arguments.values.getLast? with
      | some ('c', count) => (true, count)
      | some (_, count) => (false, count)
      | none => (false, "10")
    match portion? fromStart count with
    | none => Run.complain (program ++ ": invalid number") 1
    | some cut =>
      let (found, complete) ← contents program arguments.operands
      let titled := arguments.has 'v' || (arguments.operands.length > 1 && !arguments.has 'q')
      let blocks := found.map fun (operand, text) =>
        let parts := if byBytes then text.toList.map Char.toString else linesOf text
        let name := if operand = "-" then "standard input" else operand
        (if titled then "==> " ++ name ++ " <==\n" else "") ++ String.join (cut parts)
      Run.print ((if titled then "\n" else "").intercalate blocks)
      if !complete then Run.finish 1

/-- The width of counts: of what lies in files, the size has its digits; what comes from elsewhere
gets seven places. -/
def countWidth (operands : List String) (kinds : Nat) : Run Nat := do
  let mut size := 0
  let mut least := 1
  for operand in if operands.isEmpty then ["-"] else operands do
    if operand = "-" then
      match (← Run.stream? 0).bind ((← get).streams[·]?) with
      | some (.file location _ _) =>
        match (← get).tree.at? location with
        | some (.file content) => size := size + content.length
        | _ => least := 7
      | _ => least := 7
    else match ← entry? operand with
      | some (.file content) => size := size + content.length
      | some .directory => least := 7
      | none => pure ()
  return if operands.length ≤ 1 && kinds = 1 then 1 else max least (Nat.repr size).length

/-- Counts the lines, words and bytes of files. -/
def wc : Program := withOptions "clmw" "" 1 fun arguments => do
  let wanted := fun letter => arguments.letters.isEmpty || arguments.has letter
  let counts := fun (text : String) =>
    let words := (text.toList.splitOnP Integer.isSpace).filter (· ≠ [])
    (if wanted 'l' then [text.toList.count '\n'] else []) ++
      (if wanted 'w' then [words.length] else []) ++
      (if arguments.has 'm' then [text.length] else []) ++
      (if wanted 'c' then [text.length] else [])
  let width ← countWidth arguments.operands (counts "").length
  let (found, complete) ← contents "wc" arguments.operands
  let rows := found.map fun (operand, text) =>
    (counts text, if arguments.operands.isEmpty then "" else " " ++ operand)
  let sums := rows.foldl (fun sums (numbers, _) =>
    List.zipWith (· + ·) sums numbers) ((counts "").map fun _ => 0)
  let rows := if arguments.operands.length > 1 then rows ++ [(sums, " total")] else rows
  Run.print (String.join (rows.map fun (numbers, name) =>
    " ".intercalate (numbers.map (column width)) ++ name ++ "\n"))
  if !complete then Run.finish 1

def leadingNumber (line : List Char) : Int :=
  (Integer.read false line).value

/-- The fields of a line, each with the blanks in front of it, or those between separators. -/
def fieldsOf (separator : Option Char) (line : List Char) : List (List Char) :=
  match separator with
  | some separator => line.splitOn separator
  | none =>
    let isBlank := fun (c : Char) => c = ' ' || c = '\t'
    line.splitBy fun a b => !(!isBlank a && isBlank b)

/-- What lines are compared by: some of their fields, as text or as numbers. -/
structure SortKey where
  first : Nat
  last : Option Nat
  numeric : Bool
  reversed : Bool
  deriving Repr, DecidableEq

def SortKey.read? (text : String) : Option SortKey :=
  let (start, letters) := (text.toList.takeWhile Char.isDigit, text.toList.dropWhile Char.isDigit)
  let (letters, last, more) := match letters.splitOn ',' with
    | [letters, rest] =>
      (letters, (Integer.count? (String.ofList (rest.takeWhile Char.isDigit))),
        rest.dropWhile Char.isDigit)
    | _ => (letters, none, [])
  match Integer.count? (String.ofList start) with
  | some (first + 1) =>
    let letters := letters ++ more
    if letters.all fun c => c = 'n' || c = 'r' || c = 'b' then
      some { first, last, numeric := letters.contains 'n', reversed := letters.contains 'r' }
    else none
  | _ => none

def SortKey.part (key : SortKey) (separator : Option Char) (line : List Char) : List Char :=
  let fields := (fieldsOf separator line).drop key.first
  let fields := match key.last with
    | some last => fields.take (last - key.first)
    | none => fields
  (separator.elim [] fun c => [c]).intercalate fields

/-- How two lines compare by some keys, the first that tells them apart deciding. -/
def compareBy (separator : Option Char) (a b : List Char) : List SortKey → Ordering
  | [] => .eq
  | key :: rest =>
    let (first, second) := (key.part separator a, key.part separator b)
    let order :=
      if key.numeric then compare (leadingNumber first) (leadingNumber second)
      else compareOfLessAndEq (String.ofList first) (String.ofList second)
    (if key.reversed then order.swap else order).then (compareBy separator a b rest)

/-- Prints lines in ascending order. -/
def sort : Program := withOptions "bnrsu" "kot" 2 fun arguments => do
  let separator := (arguments.value? 't').bind (·.toList.head?)
  let whole : SortKey :=
    { first := 0, last := none, numeric := arguments.has 'n', reversed := arguments.has 'r' }
  match (arguments.valuesOf 'k').mapM SortKey.read? with
  | none => Run.complain "sort: invalid key" 2
  | some keys =>
    let keys := keys.map fun key =>
      if key.numeric || key.reversed then key
      else { key with numeric := whole.numeric, reversed := whole.reversed }
    let keys := if keys.isEmpty then [whole] else keys
    let (found, complete) ← contents "sort" arguments.operands
    let lines := found.flatMap fun (_, text) => (bareLines text).map String.toList
    let byKeys := fun a b => compareBy separator a b keys
    let last := { whole with numeric := false }
    let order := fun a b =>
      if arguments.has 'u' || arguments.has 's' then byKeys a b
      else (byKeys a b).then (compareBy none a b [last])
    let sorted := lines.mergeSort fun a b => (order a b).isLE
    let kept := if arguments.has 'u' then
        (sorted.splitBy fun a b => byKeys a b = .eq).filterMap List.head?
      else sorted
    let text := String.join (kept.map fun line => String.ofList line ++ "\n")
    if !complete then Run.finish 2
    else match arguments.value? 'o' with
      | none => Run.print text
      | some target =>
        let done ← change "sort" fun tree => tree.writeFile (toPath target) (toBytes text)
        Run.finish (if done then 0 else 2)

def uniq : Program := withOptions "cdu" "" 1 fun arguments => do
  let (found, complete) ← contents "uniq" (arguments.operands.take 1)
  let runs := (bareLines (String.join (found.map Prod.snd))).splitBy fun a b => a = b
  let shown := runs.filter fun run =>
    !(arguments.has 'd' && run.length = 1) && !(arguments.has 'u' && run.length > 1)
  let text := String.join (shown.map fun run =>
    (if arguments.has 'c' then column 7 run.length ++ " " else "") ++ run.headD "" ++ "\n")
  if !complete then Run.finish 1
  else match arguments.operands.drop 1 with
    | [] => Run.print text
    | target :: _ =>
      let done ← change "uniq" fun tree => tree.writeFile (toPath target) (toBytes text)
      Run.finish (if done then 0 else 1)

/-- The ranges of a list of places such as `1,3-5,7-`. -/
def places? (text : String) : Option (List (Nat × Option Nat)) :=
  (text.toList.splitOn ',').mapM fun item => do
    match (item.splitOn '-').map String.ofList with
    | [single] =>
      let place ← Integer.count? single
      if place = 0 then none else some (place, some place)
    | ["", ""] => none
    | [low, high] =>
      let low ← if low = "" then some 1 else Integer.count? low
      let high ← if high = "" then some none else (Integer.count? high).map some
      if low = 0 || high.any (· < low) then none else some (low, high)
    | _ => none

def pick {α : Type} (places : List (Nat × Option Nat)) (parts : List α) : List α :=
  (parts.zipIdx.filter fun (_, index) =>
    places.any fun (low, high) => low ≤ index + 1 && high.all (index + 1 ≤ ·)).map Prod.fst

/-- Prints some fields or characters of each line. -/
def cut : Program := withOptions "ns" "bcdf" 1 fun arguments => do
  let byField := (arguments.value? 'f').isSome
  let list := (arguments.value? 'f').orElse fun _ =>
    (arguments.value? 'c').orElse fun _ => arguments.value? 'b'
  let separator := ((arguments.value? 'd').getD "\t").toList
  match list.bind places?, separator with
  | some places, [separator] =>
    let cutLine := fun (line : List Char) =>
      if byField then
        if line.contains separator then
          some ([separator].intercalate (pick places (line.splitOn separator)))
        else if arguments.has 's' then none else some line
      else some (pick places line)
    let (found, complete) ← contents "cut" arguments.operands
    let lines := found.flatMap fun (_, text) => bareLines text
    Run.print (String.join ((lines.filterMap fun line => cutLine line.toList).map fun line =>
      String.ofList line ++ "\n"))
    if !complete then Run.finish 1
  | _, _ => Run.complain "cut: invalid list" 1

def tac : Program := withOptions "" "" 1 fun arguments => do
  let (found, complete) ← contents "tac" arguments.operands
  Run.print (String.join (found.flatMap fun (_, text) => (linesOf text).reverse))
  if !complete then Run.finish 1

/-- Prints each line from its last character to the first. -/
def rev : Program := withOptions "" "" 1 fun arguments => do
  let (found, complete) ← contents "rev" arguments.operands
  let turned := fun (line : String) =>
    String.ofList ((withoutBreak line).reverse ++ line.toList.drop (withoutBreak line).length)
  Run.print (String.join (found.flatMap fun (_, text) => (linesOf text).map turned))
  if !complete then Run.finish 1

def charRange (ends : Char × Char) : List Char :=
  (List.range (ends.2.toNat + 1 - ends.1.toNat)).map fun n => Char.ofNat (ends.1.toNat + n)

/-- The characters of a set for exchanging them. `fuel` bounds the length. -/
def charSet : Nat → List Char → List Char
  | 0, _ => []
  | fuel + 1, text =>
    match text with
    | '[' :: ':' :: rest =>
      let name := rest.takeWhile Char.isAlpha
      match rest.drop name.length with
      | ':' :: ']' :: rest => (Pattern.classRanges name).flatMap charRange ++ charSet fuel rest
      | _ => '[' :: charSet fuel (':' :: rest)
    | '\\' :: 'n' :: rest => '\n' :: charSet fuel rest
    | '\\' :: 't' :: rest => '\t' :: charSet fuel rest
    | '\\' :: 'r' :: rest => '\r' :: charSet fuel rest
    | '\\' :: c :: rest => c :: charSet fuel rest
    | low :: '-' :: high :: rest => charRange (low, high) ++ charSet fuel rest
    | c :: rest => c :: charSet fuel rest
    | [] => []

/-- Exchanges, removes or squeezes characters of the input. -/
def tr : Program := withOptions "cCds" "" 1 fun arguments => do
  let sets := arguments.operands.map fun operand => charSet (operand.length + 1) operand.toList
  let complement := arguments.has 'c' || arguments.has 'C'
  let first := sets.headD []
  let first :=
    if complement then (charRange ('\x00', '\xff')).filter (!first.contains ·) else first
  let squeezed := fun (set : List Char) (text : List Char) =>
    if arguments.has 's' then
      (text.splitBy fun a b => a = b && set.contains a).filterMap List.head?
    else text
  match arguments.has 'd', sets with
  | true, [_] =>
    Run.print (String.ofList ((← Run.readAll 0).toList.filter fun c => !first.contains c))
  | true, [_, second] =>
    let kept := (← Run.readAll 0).toList.filter fun c => !first.contains c
    Run.print (String.ofList (squeezed second kept))
  | false, [_] =>
    if arguments.has 's' then
      Run.print (String.ofList (squeezed first (← Run.readAll 0).toList))
    else Run.complain "tr: missing operand" 1
  | false, [_, second] =>
    if second.isEmpty then Run.complain "tr: empty set" 1
    else
      let pairs := first.zip (second ++ List.replicate first.length (second.getLastD ' '))
      let exchanged := (← Run.readAll 0).toList.map fun c =>
        ((pairs.reverse.lookup c).getD c)
      Run.print (String.ofList (squeezed second exchanged))
  | _, _ => Run.complain "tr: wrong number of operands" 1

end DramSweep.Shell.Utility
