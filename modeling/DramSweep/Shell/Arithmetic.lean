import DramSweep.Shell.Integer
import DramSweep.Shell.State

/-!
Expressions over integers and variables. An operand that the value does not hang on is not
evaluated: the right side of a connective, or the other side of a choice.
-/

namespace DramSweep.Shell

/-- An operator with two operands, both of which are evaluated. -/
inductive Operator where
  | times | quotient | remainder | plus | minus | shiftLeft | shiftRight
  | less | lessOrEqual | greater | greaterOrEqual | equal | unequal
  | bitAnd | bitXor | bitOr
  deriving Repr, DecidableEq

inductive Expression where
  | number (n : Int)
  | name (name : String)
  | negative (operand : Expression)
  | not (operand : Expression)
  | bitNot (operand : Expression)
  | apply (operator : Operator) (left right : Expression)
  | both (left right : Expression)
  | either (left right : Expression)
  | choice (condition whenTrue otherwise : Expression)
  /-- A variable takes a value, or its own one combined with it. -/
  | assign (name : String) (operator : Option Operator) (value : Expression)
  deriving Repr, DecidableEq

namespace Operator

def truth (holds : Bool) : Int :=
  if holds then 1 else 0

/-- The value of an operator, if it has one. Division is towards zero. -/
def result? (operator : Operator) (a b : Int) : Option Int :=
  match operator with
  | .times => some (Integer.wrap (a * b))
  | .quotient => if b = 0 then none else some (Integer.wrap (a.tdiv b))
  | .remainder => if b = 0 then none else some (Integer.wrap (a.tmod b))
  | .plus => some (Integer.wrap (a + b))
  | .minus => some (Integer.wrap (a - b))
  | .shiftLeft => some (Integer.wrap (a * Nat.pow 2 (b % 64).toNat))
  | .shiftRight => some (a.fdiv (Nat.pow 2 (b % 64).toNat))
  | .less => some (truth (a < b))
  | .lessOrEqual => some (truth (a ≤ b))
  | .greater => some (truth (b < a))
  | .greaterOrEqual => some (truth (b ≤ a))
  | .equal => some (truth (a = b))
  | .unequal => some (truth (a ≠ b))
  | .bitAnd => some ((Int64.ofInt a &&& Int64.ofInt b).toInt)
  | .bitXor => some ((Int64.ofInt a ^^^ Int64.ofInt b).toInt)
  | .bitOr => some ((Int64.ofInt a ||| Int64.ofInt b).toInt)

/-- The operators of each level of precedence, the strongest first. -/
def levels : List (List (String × Operator)) :=
  [[("*", .times), ("/", .quotient), ("%", .remainder)], [("+", .plus), ("-", .minus)],
    [("<<", .shiftLeft), (">>", .shiftRight)],
    [("<", .less), ("<=", .lessOrEqual), (">", .greater), (">=", .greaterOrEqual)],
    [("==", .equal), ("!=", .unequal)], [("&", .bitAnd)], [("^", .bitXor)], [("|", .bitOr)]]

/-- The signs with which a variable takes a value. -/
def assignments : List (String × Option Operator) :=
  [("=", none), ("*=", some .times), ("/=", some .quotient), ("%=", some .remainder),
    ("+=", some .plus), ("-=", some .minus), ("<<=", some .shiftLeft), (">>=", some .shiftRight),
    ("&=", some .bitAnd), ("^=", some .bitXor), ("|=", some .bitOr)]

end Operator

namespace Expression

/-- A part of the text of an expression. -/
inductive Token where
  | number (n : Int)
  | name (name : String)
  | sign (text : String)
  | other (c : Char)
  deriving Repr, DecidableEq

/-- All signs, a longer one in front of those that it begins with. -/
def signs : List String :=
  ["<<=", ">>=", "<<", ">>", "<=", ">=", "==", "!=", "&&", "||", "*=", "/=", "%=", "+=", "-=",
    "&=", "^=", "|=", "*", "/", "%", "+", "-", "<", ">", "&", "^", "|", "!", "~", "?", ":", "(",
    ")", "="]

/-- The parts of a text. `fuel` bounds its length. -/
def tokens : Nat → List Char → List Token
  | 0, _ => []
  | fuel + 1, text =>
    match text with
    | [] => []
    | c :: rest =>
      if c = ' ' || c = '\t' || c = '\n' then tokens fuel rest
      else if c.isDigit then
        let reading := Integer.read true text
        .number reading.value :: tokens fuel reading.rest
      else if isNameStart c then
        .name (String.ofList (text.takeWhile isNameChar)) ::
          tokens fuel (text.dropWhile isNameChar)
      else match signs.find? fun sign => sign.toList.isPrefixOf text with
        | some sign => .sign sign :: tokens fuel (text.drop sign.length)
        | none => .other c :: tokens fuel rest

/-- What a text that spells no expression should go on with. -/
inductive Expected where
  | operand
  | colon
  | closing
  | ending
  deriving Repr, DecidableEq

/-- What is said of a text that spells no expression. -/
def Expected.message : Expected → String
  | .operand => "expecting primary"
  | .colon => "expecting \x27:\x27"
  | .closing => "expecting \x27)\x27"
  | .ending => "expecting EOF"

mutual

/-- An expression and what is left behind it. `fuel` bounds the depth of the reading. -/
def readWhole : Nat → List Token → Except Expected (Expression × List Token)
  | 0, _ => .error .operand
  | fuel + 1, .name word :: .sign sign :: rest =>
    match Operator.assignments.lookup sign with
    | some operator =>
      (readWhole fuel rest).map fun (value, rest) => (.assign word operator value, rest)
    | none => readChoice fuel (.name word :: .sign sign :: rest)
  | fuel + 1, tokens => readChoice fuel tokens

def readChoice : Nat → List Token → Except Expected (Expression × List Token)
  | 0, _ => .error .operand
  | fuel + 1, tokens => do
    let (condition, rest) ← readDisjunction fuel tokens
    match rest with
    | .sign "?" :: rest =>
      match ← readWhole fuel rest with
      | (whenTrue, .sign ":" :: rest) =>
        let (otherwise, rest) ← readChoice fuel rest
        return (.choice condition whenTrue otherwise, rest)
      | _ => throw .colon
    | rest => return (condition, rest)

def readDisjunction : Nat → List Token → Except Expected (Expression × List Token)
  | 0, _ => .error .operand
  | fuel + 1, tokens => do
    let (first, rest) ← readConjunction fuel tokens
    match rest with
    | .sign "||" :: rest =>
      let (second, rest) ← readDisjunction fuel rest
      return (.either first second, rest)
    | rest => return (first, rest)

def readConjunction : Nat → List Token → Except Expected (Expression × List Token)
  | 0, _ => .error .operand
  | fuel + 1, tokens => do
    let (first, rest) ← readApplication fuel Operator.levels.reverse tokens
    match rest with
    | .sign "&&" :: rest =>
      let (second, rest) ← readConjunction fuel rest
      return (.both first second, rest)
    | rest => return (first, rest)

/-- Operators of some levels, the weakest first. -/
def readApplication : Nat → List (List (String × Operator)) → List Token →
    Except Expected (Expression × List Token)
  | 0, _, _ => .error .operand
  | fuel + 1, [], tokens => readOperand fuel tokens
  | fuel + 1, level :: stronger, tokens => do
    let (first, rest) ← readApplication fuel stronger tokens
    readFollowing fuel level stronger first rest

/-- Further operands of one level, behind what is on their left. -/
def readFollowing : Nat → List (String × Operator) → List (List (String × Operator)) →
    Expression → List Token → Except Expected (Expression × List Token)
  | 0, _, _, _, _ => .error .operand
  | fuel + 1, level, stronger, first, .sign sign :: rest =>
    match level.lookup sign with
    | some operator => do
      let (second, rest) ← readApplication fuel stronger rest
      readFollowing fuel level stronger (.apply operator first second) rest
    | none => .ok (first, .sign sign :: rest)
  | _ + 1, _, _, first, rest => .ok (first, rest)

/-- A number, a variable, an expression in brackets, or one of these behind signs. -/
def readOperand : Nat → List Token → Except Expected (Expression × List Token)
  | 0, _ => .error .operand
  | fuel + 1, tokens =>
    match tokens with
    | .number n :: rest => .ok (.number n, rest)
    | .name word :: rest => .ok (.name word, rest)
    | .sign "+" :: rest => readOperand fuel rest
    | .sign "-" :: rest => (readOperand fuel rest).map fun (e, rest) => (.negative e, rest)
    | .sign "!" :: rest => (readOperand fuel rest).map fun (e, rest) => (.not e, rest)
    | .sign "~" :: rest => (readOperand fuel rest).map fun (e, rest) => (.bitNot e, rest)
    | .sign "(" :: rest => do
      match ← readWhole fuel rest with
      | (inside, .sign ")" :: rest) => return (inside, rest)
      | _ => throw .closing
    | _ => .error .operand

end

def ofText (text : String) : Except Expected Expression := do
  let tokens := tokens (text.length + 1) text.toList
  match ← readWhole (16 * tokens.length + 32) tokens with
  | (expression, []) => return expression
  | _ => throw .ending

def reject {α : Type} (text reason : String) : Run α :=
  Run.fail ("arithmetic expression: " ++ reason ++ ": \"" ++ text ++ "\"")

/-- The value of a variable: an empty or missing one counts as zero. -/
def valueOf (name : String) : Run Int := do
  let value := ((← get).value? name).getD ""
  match Integer.ofText? true value with
  | some n => return n
  | none => Run.fail ("Illegal number: " ++ value)

def combine (text : String) (operator : Operator) (a b : Int) : Run Int := do
  match operator.result? a b with
  | some n => return n
  | none => reject text "division by zero"

def eval (text : String) : Expression → Run Int
  | .number n => return n
  | .name word => valueOf word
  | .negative e => return Integer.wrap (-(← eval text e))
  | .not e => return Operator.truth ((← eval text e) = 0)
  | .bitNot e => return -(← eval text e) - 1
  | .apply operator a b => do combine text operator (← eval text a) (← eval text b)
  | .both a b => do
    if (← eval text a) = 0 then return 0
    return Operator.truth ((← eval text b) ≠ 0)
  | .either a b => do
    if (← eval text a) ≠ 0 then return 1
    return Operator.truth ((← eval text b) ≠ 0)
  | .choice condition a b => do if (← eval text condition) ≠ 0 then eval text a else eval text b
  | .assign word operator e => do
    let value ← match operator with
      | none => eval text e
      | some operator => combine text operator (← valueOf word) (← eval text e)
    Run.assign word (Int.repr value)
    return value

end Expression

end DramSweep.Shell
