/-!
Shell scripts as they are read: words made of parts, redirections, and commands made of words and
of other commands. A text here has one character for each byte.
-/

namespace DramSweep.Shell

/-- What stands in place of the value of a parameter. -/
inductive Change where
  | keep
  | length
  /-- A word if there is no value, or, where `orEmpty` says so, an empty one. -/
  | orElse (orEmpty : Bool)
  /-- The same, and the parameter takes that value. -/
  | orAssign (orEmpty : Bool)
  | orFail (orEmpty : Bool)
  | andThen (orEmpty : Bool)
  /-- The value without its shortest or longest end that matches a pattern. -/
  | trim (atEnd longest : Bool)
  | unknown
  deriving Repr, DecidableEq

inductive Opening where
  | reading
  /-- What it holds goes. Where the shell is told so, the file must be new. -/
  | writing
  | replacing
  | appending
  /-- For reading and writing, with its content kept. -/
  | updating
  deriving Repr, DecidableEq

mutual

/-- A part of a word. What is quoted is neither split nor taken as a pattern. -/
inductive Part where
  | text (chars : List Char) (quoted : Bool)
  | parameter (name : String) (change : Change) (word : List Part) (quoted : Bool)
  | output (body : List Command) (quoted : Bool)
  | value (expression : List Part) (quoted : Bool)

/-- Where a stream of a command comes from or goes to. -/
inductive Redirection where
  | file (stream : Nat) (opening : Opening) (target : List Part)
  /-- Another stream, or none if the word is a hyphen. -/
  | copy (stream : Nat) (source : List Part)
  | document (stream : Nat) (number : Nat)

inductive Command where
  | simple (assignments : List (String × List Part)) (words : List (List Part))
      (redirections : List Redirection)
  | pipeline (stages : List Command)
  | negation (command : Command)
  | both (first second : Command)
  | either (first second : Command)
  | background (command : Command)
  | group (body : List Command)
  /-- Commands that leave no trace in the state of the shell. -/
  | apart (body : List Command)
  | choice (condition body otherwise : List Command)
  /-- The body runs as long as the condition does not end as `untilSuccess` says. -/
  | loop (untilSuccess : Bool) (condition body : List Command)
  | each (name : String) (words : Option (List (List Part))) (body : List Command)
  | select (subject : List Part) (clauses : List (List (List Part) × List Command))
  | define (name : String) (body : Command)
  | redirected (command : Command) (redirections : List Redirection)
  | located (line : Nat) (command : Command)

end

instance : Inhabited Command := ⟨.group []⟩

abbrev Word := List Part

end DramSweep.Shell
