import DramSweep.Shell.Syntax

/-!
Reading a script. A script is read line by line, so a mistake on a later line does not keep the
earlier ones from running; a command that is open at the end of a line goes on in the next one.
Reserved words are such only where a command may begin.
-/

namespace DramSweep.Shell

/-- A text of the script that a command has asked for and that stands below its line. -/
structure Awaited where
  ending : List Char
  /-- Whether tabs in front of its lines are left out. -/
  indented : Bool
  literal : Bool

/-- What is left of a script, and the texts for commands that were read so far. -/
structure Source where
  rest : List Char
  /-- How many lines the whole text has. -/
  lines : Nat := 1
  documents : List Word := []
  awaited : List Awaited := []

/-- Reads something off the front of a source, or finds a mistake. -/
abbrev Reading := StateT Source Option

/-- Where parts of a word are read. -/
inductive Context where
  | bare
  | double
  | braces (quoted : Bool)
  /-- In a text below the line. -/
  | document
  /-- In an expression, so many brackets deep. -/
  | expression (depth : Nat)
  deriving Repr, DecidableEq

/-- Whether text here is quoted by where it stands. -/
def Context.isQuoted : Context → Bool
  | .bare | .braces false => false
  | _ => true

def isMeta (c : Char) : Bool :=
  c = ' ' || c = '\t' || c = '\n' || c = ';' || c = '&' || c = '|' || c = '<' || c = '>' ||
    c = '(' || c = ')'

def isNameStart (c : Char) : Bool :=
  c.isAlpha || c = '_'

def isNameChar (c : Char) : Bool :=
  c.isAlphanum || c = '_'

def isName (text : List Char) : Bool :=
  text.head?.any isNameStart && text.all isNameChar

/-- Names of parameters that are single signs. -/
def isSpecial (c : Char) : Bool :=
  c = '@' || c = '*' || c = '#' || c = '?' || c = '-' || c = '$' || c = '!'

/-- Words that have a meaning where a command may begin. -/
def reservedWords : List String :=
  ["!", "case", "do", "done", "elif", "else", "esac", "fi", "for", "if", "in", "then", "until",
    "while", "\x7b", "\x7d"]

/-- Reserved words and signs that end a list of commands. -/
def closers : List String :=
  ["do", "done", "elif", "else", "esac", "fi", "then", "\x7d"]

namespace Reading

def rest : Reading (List Char) :=
  return (← get).rest

def lineNumber : Reading Nat := do
  let source ← get
  return source.lines - source.rest.count '\n'

def leave (text : List Char) : Reading Unit :=
  modify fun source => { source with rest := text }

def accept (text : String) : Reading Bool := do
  let rest ← rest
  if text.toList.isPrefixOf rest then leave (rest.drop text.length); return true
  else return false

/-- Takes the given text, which must be next. -/
def expect (text : String) : Reading Unit := do
  if !(← accept text) then failure

/-- Takes the longest run of characters of a class. -/
def takeRun (isMember : Char → Bool) : Reading (List Char) := do
  let rest ← rest
  leave (rest.dropWhile isMember)
  return rest.takeWhile isMember

/-- The text without blanks, joined lines and a comment in front. -/
def dropBlanks : List Char → List Char
  | ' ' :: rest | '\t' :: rest | '\\' :: '\n' :: rest => dropBlanks rest
  | '#' :: rest => rest.dropWhile (· ≠ '\n')
  | rest => rest

/-- Passes over blanks, joined lines and a comment. -/
def blanks : Reading Unit := do
  leave (dropBlanks (← rest))

def takeSingle : Reading (List Char) := do
  let text ← takeRun (· ≠ '\x27')
  expect "'"
  return text

/-- The text inside backquotes, and what is left behind them. A backslash there shields a
backquote, a dollar sign, a backslash, and, in double quotes, a double quote. -/
def cutBackquoted (quoted : Bool) : List Char → Option (List Char × List Char)
  | [] => none
  | '\x60' :: rest => some ([], rest)
  | '\\' :: c :: rest =>
    let shielded := c = '\x60' || c = '$' || c = '\\' || (quoted && c = '"')
    (cutBackquoted quoted rest).map fun (text, rest) =>
      (if shielded then c :: text else '\\' :: c :: text, rest)
  | c :: rest => (cutBackquoted quoted rest).map fun (text, rest) => (c :: text, rest)

def reservedAhead (text : List Char) : Option String :=
  let run := text.takeWhile fun c =>
    !isMeta c && c ≠ '"' && c ≠ '\x27' && c ≠ '\\' && c ≠ '$' && c ≠ '\x60'
  let follower := text[run.length]?
  let word := String.ofList run
  if word ∈ reservedWords && follower.all isMeta then some word else none

def acceptReserved (word : String) : Reading Bool := do
  blanks
  let rest ← rest
  if reservedAhead rest = some word then leave (rest.drop word.length); return true
  else return false

/-- Takes a reserved word, which must be next. -/
def expectReserved (word : String) : Reading Unit := do
  if !(← acceptReserved word) then failure

/-- What a backslash makes of the character behind it: the characters that are meant. -/
def escaped (context : Context) (c : Char) : List Char :=
  let shielded := match context with
    | .bare | .braces false => true
    | .document => c = '$' || c = '\x60' || c = '\\'
    | .braces true => c = '$' || c = '\x60' || c = '\\' || c = '"' || c = '\x7d'
    | .double | .expression _ => c = '$' || c = '\x60' || c = '\\' || c = '"'
  if c = '\n' then [] else if shielded then [c] else ['\\', c]

/-- What an operator in braces does with the value. -/
def change : Reading Change := do
  if ← accept "##" then return .trim false true
  if ← accept "#" then return .trim false false
  if ← accept "%%" then return .trim true true
  if ← accept "%" then return .trim true false
  let orEmpty ← accept ":"
  if ← accept "-" then return .orElse orEmpty
  if ← accept "=" then return .orAssign orEmpty
  if ← accept "?" then return .orFail orEmpty
  if ← accept "+" then return .andThen orEmpty
  return .unknown

def parameterName : Reading String := do
  match ← rest with
  | c :: more =>
    if isNameStart c then return String.ofList (← takeRun isNameChar)
    else if c.isDigit then return String.ofList (← takeRun Char.isDigit)
    else if isSpecial c then leave more; return c.toString
    else return ""
  | [] => return ""

/-- The context of the word behind an operator in braces. Patterns stand outside the quotes
around the braces. -/
def wordContext (context : Context) : Change → Context
  | .trim _ _ => .braces false
  | _ => .braces context.isQuoted

def plainText : Word → Option (List Char × Bool)
  | [] => some ([], false)
  | .text chars quoted :: rest =>
    (plainText rest).map fun (text, more) => (chars ++ text, quoted || more)
  | _ => none

/-- Lines up to the one that ends a text, and what is left behind it. `fuel` bounds their
number. -/
def cutLines (awaited : Awaited) : Nat → List Char → List Char × List Char
  | 0, text => ([], text)
  | fuel + 1, text =>
    let text := if awaited.indented then text.dropWhile (· = '\t') else text
    let line := text.takeWhile (· ≠ '\n')
    let rest := text.drop line.length
    if text = [] ∨ line = awaited.ending then ([], rest.drop 1)
    else
      let (lines, left) := cutLines awaited fuel (rest.drop 1)
      (line ++ rest.take 1 ++ lines, left)

mutual

def parts : Nat → Context → Reading Word
  | 0, _ => failure
  | fuel + 1, context => do
    let ended := match context, ← rest with
      | .bare, c :: _ => isMeta c
      | .double, c :: _ => c = '"'
      | .braces _, c :: _ => c = '\x7d'
      | .expression 0, ')' :: ')' :: _ => true
      | .bare, [] | .document, [] => true
      | _, _ => false
    if ended then return []
    match ← rest with
    | [] => failure
    | c :: more =>
      leave more
      let (first, context) ← part fuel context c
      return first ++ (← parts fuel context)

/-- The part that begins with a character which was just taken, and the context behind it. -/
def part : Nat → Context → Char → Reading (Word × Context)
  | 0, _, _ => failure
  | fuel + 1, context, c => do
    if c = '\\' then
      match ← rest with
      | [] => return ([.text ['\\'] true], context)
      | d :: more =>
        leave more
        return ([.text (escaped context d) true], context)
    else if c = '$' then return (← dollar fuel context.isQuoted, context)
    else if c = '\x60' then
      match cutBackquoted context.isQuoted (← rest) with
      | none => failure
      | some (text, more) =>
        leave text
        let body ← script fuel
        leave more
        return ([.output body context.isQuoted], context)
    else match context, c with
      | .expression depth, '(' => return ([.text [c] true], .expression (depth + 1))
      | .expression depth, ')' => return ([.text [c] true], .expression (depth - 1))
      | .bare, '"' | .braces _, '"' =>
        let inside ← parts fuel .double
        expect "\""
        return (if inside.isEmpty then [.text [] true] else inside, context)
      | .bare, '\x27' | .braces false, '\x27' => return ([.text (← takeSingle) true], context)
      | _, _ => return ([.text [c] context.isQuoted], context)

def dollar : Nat → Bool → Reading Word
  | 0, _ => failure
  | fuel + 1, quoted => do
    if ← accept "((" then
      let expression ← parts fuel (.expression 0)
      expect "))"
      return [.value expression quoted]
    if ← accept "(" then
      let body ← commands fuel true
      blanks
      expect ")"
      return [.output body quoted]
    if ← accept "\x7b" then return [← braces fuel quoted]
    match ← rest with
      | c :: more =>
        if isNameStart c then
          return [.parameter (String.ofList (← takeRun isNameChar)) .keep [] quoted]
        else if c.isDigit || isSpecial c then
          leave more
          return [.parameter c.toString .keep [] quoted]
        else return [.text ['$'] quoted]
      | [] => return [.text ['$'] quoted]

/-- A parameter in braces, behind the opening one. -/
def braces : Nat → Bool → Reading Part
  | 0, _ => failure
  | fuel + 1, quoted => do
    let context : Context := if quoted then .double else .bare
    match ← rest with
    | '#' :: c :: _ =>
      if c ≠ '\x7d' && (isNameChar c || isSpecial c) then
        leave ((← rest).drop 1)
        let name ← parameterName
        if ← accept "\x7d" then return .parameter name .length [] quoted
        else
          let _ ← parts fuel (.braces quoted)
          expect "\x7d"
          return .parameter name .unknown [] quoted
    | _ => pure ()
    let name ← parameterName
    if ← accept "\x7d" then
      return .parameter name (if name = "" then .unknown else .keep) [] quoted
    let change ← change
    let word ← parts fuel (wordContext context change)
    expect "\x7d"
    return .parameter name change word quoted

/-- All commands of a text that stands on its own. -/
def script : Nat → Reading (List Command)
  | 0 => failure
  | fuel + 1 => do
    let body ← commands fuel true
    blanks
    if (← rest) ≠ [] then failure
    return body

/-- Reads the texts that the commands before this line break asked for. -/
def documents : Nat → Reading Unit
  | 0 => failure
  | fuel + 1 => do
    match (← get).awaited with
    | [] => return ()
    | first :: others =>
      modify fun source => { source with awaited := others }
      let (text, left) := cutLines first ((← rest).length + 1) (← rest)
      let word ←
        if first.literal then pure [Part.text text true]
        else
          leave text
          parts fuel .document
      leave left
      modify fun source => { source with documents := source.documents ++ [word] }
      documents fuel

/-- Takes a line break with the texts below it, if it is next. -/
def lineBreak : Nat → Reading Bool
  | 0 => failure
  | fuel + 1 => do
    blanks
    if ← accept "\n" then
      documents fuel
      return true
    else return false

def lineBreaks : Nat → Reading Unit
  | 0 => failure
  | fuel + 1 => do
    if ← lineBreak fuel then lineBreaks fuel

def word : Nat → Reading Word
  | 0 => failure
  | fuel + 1 => do
    blanks
    match ← rest with
    | [] => failure
    | c :: _ =>
      if isMeta c then failure
      parts fuel .bare

def redirection : Nat → Reading (Option Redirection)
  | 0 => failure
  | fuel + 1 => do
    blanks
    let stream ← match ← rest with
      | c :: d :: more =>
        if c.isDigit && (d = '<' || d = '>') then
          leave (d :: more)
          pure (some (c.toNat - '0'.toNat))
        else pure none
      | _ => pure none
    if ← accept "<<" then
      let indented ← accept "-"
      match plainText (← word fuel) with
      | none => failure
      | some (ending, literal) =>
        let number := (← get).documents.length + (← get).awaited.length
        let awaited : Awaited := { ending, indented, literal }
        modify fun source => { source with awaited := source.awaited ++ [awaited] }
        return some (.document (stream.getD 0) number)
    if ← accept "<&" then return some (.copy (stream.getD 0) (← word fuel))
    if ← accept "<>" then return some (.file (stream.getD 0) .updating (← word fuel))
    if ← accept "<" then return some (.file (stream.getD 0) .reading (← word fuel))
    if ← accept ">>" then return some (.file (stream.getD 1) .appending (← word fuel))
    if ← accept ">&" then return some (.copy (stream.getD 1) (← word fuel))
    if ← accept ">|" then return some (.file (stream.getD 1) .replacing (← word fuel))
    if ← accept ">" then return some (.file (stream.getD 1) .writing (← word fuel))
    return none

def redirections : Nat → Reading (List Redirection)
  | 0 => failure
  | fuel + 1 => do
    match ← redirection fuel with
    | some first => return first :: (← redirections fuel)
    | none => return []

/-- The rest of a simple command: assignments as long as there are no words, words and
redirections. -/
def simple : Nat → List (String × Word) → List Word → List Redirection → Reading Command
  | 0, _, _, _ => failure
  | fuel + 1, assignments, words, redirs => do
    match ← redirection fuel with
    | some redirection => simple fuel assignments words (redirs ++ [redirection])
    | none =>
      let text ← rest
      let name := text.takeWhile isNameChar
      match text.drop name.length with
      | '=' :: more =>
        if words = [] && isName name then
          leave more
          let value ← parts fuel .bare
          simple fuel (assignments ++ [(String.ofList name, value)]) words redirs
        else simple fuel assignments (words ++ [← word fuel]) redirs
      | _ =>
        if text.head?.all isMeta then return .simple assignments words redirs
        else simple fuel assignments (words ++ [← word fuel]) redirs

/-- A simple command or the definition of a function, at least one character of which is next. -/
def simpleOrFunction : Nat → Reading Command
  | 0 => failure
  | fuel + 1 => do
    let name := (← rest).takeWhile isNameChar
    match dropBlanks ((← rest).drop name.length) with
    | '(' :: more =>
      if !isName name then failure
      leave more
      blanks
      expect ")"
      lineBreaks fuel
      return .define (String.ofList name) (← command fuel)
    | _ =>
      match ← simple fuel [] [] [] with
      | .simple [] [] [] => failure
      | command => return command

def words : Nat → Reading (List Word)
  | 0 => failure
  | fuel + 1 => do
    blanks
    if (← rest).head?.all isMeta then return []
    return (← word fuel) :: (← words fuel)

/-- The patterns of a clause up to the bracket behind them. -/
def patterns : Nat → Reading (List Word)
  | 0 => failure
  | fuel + 1 => do
    let first ← word fuel
    blanks
    if ← accept "|" then return first :: (← patterns fuel)
    expect ")"
    return [first]

/-- The clauses of a selection with the reserved word that ends them. -/
def clauses : Nat → Reading (List (List Word × List Command))
  | 0 => failure
  | fuel + 1 => do
    lineBreaks fuel
    if ← acceptReserved "esac" then return []
    let _ ← accept "("
    let matching ← patterns fuel
    let body ← commands fuel true
    blanks
    if ← accept ";;" then return (matching, body) :: (← clauses fuel)
    lineBreaks fuel
    expectReserved "esac"
    return [(matching, body)]

def choice : Nat → Reading Command
  | 0 => failure
  | fuel + 1 => do
    let condition ← commands fuel false
    expectReserved "then"
    let body ← commands fuel false
    if ← acceptReserved "elif" then return .choice condition body [← choice fuel]
    let otherwise ← if ← acceptReserved "else" then commands fuel false else pure []
    expectReserved "fi"
    return .choice condition body otherwise

/-- A loop over words, behind its first word. -/
def each : Nat → Reading Command
  | 0 => failure
  | fuel + 1 => do
    blanks
    let name ← takeRun isNameChar
    if !isName name || !(← rest).head?.all isMeta then failure
    lineBreaks fuel
    let items ←
      if ← acceptReserved "in" then
        let items ← words fuel
        if !(← accept ";") then
          if !(← lineBreak fuel) then failure
        pure (some items)
      else
        let _ ← accept ";"
        pure none
    lineBreaks fuel
    expectReserved "do"
    let body ← commands fuel false
    expectReserved "done"
    return .each (String.ofList name) items body

/-- A command that begins with a bracket or a reserved word, if one is next. -/
def compound : Nat → Reading (Option Command)
  | 0 => failure
  | fuel + 1 => do
    blanks
    if ← accept "(" then
      let body ← commands fuel false
      blanks
      expect ")"
      return some (.apart body)
    if ← acceptReserved "\x7b" then
      let body ← commands fuel false
      expectReserved "\x7d"
      return some (.group body)
    if ← acceptReserved "if" then return some (← choice fuel)
    if ← acceptReserved "while" then return some (← loop fuel false)
    if ← acceptReserved "until" then return some (← loop fuel true)
    if ← acceptReserved "for" then return some (← each fuel)
    if ← acceptReserved "case" then
      let subject ← word fuel
      lineBreaks fuel
      expectReserved "in"
      return some (.select subject (← clauses fuel))
    return none

def command : Nat → Reading Command
  | 0 => failure
  | fuel + 1 => do
    blanks
    let line ← lineNumber
    match ← compound fuel with
    | some compound =>
      let redirs ← redirections fuel
      return .located line (if redirs.isEmpty then compound else .redirected compound redirs)
    | none =>
      if (reservedAhead (← rest)).isSome then failure
      return .located line (← simpleOrFunction fuel)

/-- What follows the first word of a loop with a condition. -/
def loop : Nat → Bool → Reading Command
  | 0, _ => failure
  | fuel + 1, untilSuccess => do
    let condition ← commands fuel false
    expectReserved "do"
    let body ← commands fuel false
    expectReserved "done"
    return .loop untilSuccess condition body

def stages : Nat → Reading (List Command)
  | 0 => failure
  | fuel + 1 => do
    let first ← command fuel
    blanks
    if "||".toList.isPrefixOf (← rest) then return [first]
    if ← accept "|" then
      lineBreaks fuel
      return first :: (← stages fuel)
    return [first]

def pipeline : Nat → Reading Command
  | 0 => failure
  | fuel + 1 => do
    let negated ← acceptReserved "!"
    let whole := match ← stages fuel with
      | [single] => single
      | several => .pipeline several
    return if negated then .negation whole else whole

/-- Pipelines that depend on each other, behind those that were read. -/
def chain : Nat → Command → Reading Command
  | 0, _ => failure
  | fuel + 1, first => do
    blanks
    if ← accept "&&" then
      lineBreaks fuel
      return ← chain fuel (.both first (← pipeline fuel))
    if ← accept "||" then
      lineBreaks fuel
      return ← chain fuel (.either first (← pipeline fuel))
    return first

/-- A list of commands inside another command, up to what ends it. -/
def commands : Nat → Bool → Reading (List Command)
  | 0, _ => failure
  | fuel + 1, mayBeEmpty => do
    lineBreaks fuel
    blanks
    let text ← rest
    let closed := text = [] || text.head? = some ')' || ";;".toList.isPrefixOf text ||
      (reservedAhead text).any (· ∈ closers)
    if closed && mayBeEmpty then return []
    let first ← chain fuel (← pipeline fuel)
    blanks
    if ";;".toList.isPrefixOf (← rest) then return [first]
    if ← accept ";" then return first :: (← commands fuel true)
    if ← accept "&" then return .background first :: (← commands fuel true)
    if ← lineBreak fuel then return first :: (← commands fuel true)
    return [first]

end

def lineCommands : Nat → Nat → Reading (List Command)
  | 0, _ => failure
  | count + 1, fuel => do
    if ← lineBreak fuel then return []
    if (← rest) = [] then return []
    let first ← chain fuel (← pipeline fuel)
    blanks
    if ";;".toList.isPrefixOf (← rest) then failure
    if ← accept ";" then return first :: (← lineCommands count fuel)
    if ← accept "&" then return .background first :: (← lineCommands count fuel)
    if ← lineBreak fuel then return [first]
    if (← rest) = [] then
      documents fuel
      return [first]
    failure

/-- How deep the reading of a text can go. -/
def depth (text : List Char) : Nat :=
  16 * text.length + 64

def line : Reading (List Command) := do
  let text ← rest
  lineCommands (text.length + 1) (depth text)

end Reading

end DramSweep.Shell
