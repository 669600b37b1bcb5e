import DramSweep.Shell.Integer
import DramSweep.Shell.State

/-!
Conditions on files, texts and numbers, written as a list of words. Whether a word is an operator
depends on how many words there are and on those beside it.
-/

namespace DramSweep.Shell

/-- A test of one word. -/
inductive Test where
  | isEmpty
  | isNonempty
  | isThere
  | isFile
  | isDirectory
  | isFilled
  | mayRead
  | mayRun
  | isDevice
  /-- Something that no file here is. -/
  | isOther
  deriving Repr, DecidableEq

/-- A comparison of two words. -/
inductive Comparison where
  | same | different | before | behind
  | equal | unequal | greater | greaterOrEqual | less | lessOrEqual
  | newer | older | sameFile
  deriving Repr, DecidableEq

/-- Why words make up no condition. -/
inductive ConditionMistake where
  | operandMissing (operator : String)
  | notANumber (word : String)
  | unexpected (word : String)
  | unclosed
  deriving Repr, DecidableEq

def ConditionMistake.message : ConditionMistake → String
  | .operandMissing operator => operator ++ ": argument expected"
  | .notANumber word => "Illegal number: " ++ word
  | .unexpected word => word ++ ": unexpected operator"
  | .unclosed => "closing paren expected"

namespace Condition

def tests : List (String × Test) :=
  [("-z", .isEmpty), ("-n", .isNonempty), ("-e", .isThere), ("-f", .isFile), ("-d", .isDirectory),
    ("-s", .isFilled), ("-r", .mayRead), ("-w", .mayRead), ("-x", .mayRun), ("-O", .isThere),
    ("-G", .isThere), ("-h", .isOther), ("-L", .isOther), ("-p", .isOther), ("-b", .isOther),
    ("-c", .isDevice), ("-u", .isOther), ("-g", .isOther), ("-k", .isOther), ("-S", .isOther),
    ("-t", .isOther)]

def comparisons : List (String × Comparison) :=
  [("=", .same), ("!=", .different), ("<", .before), (">", .behind),
    ("-eq", .equal), ("-ne", .unequal), ("-gt", .greater), ("-ge", .greaterOrEqual),
    ("-lt", .less), ("-le", .lessOrEqual), ("-nt", .newer), ("-ot", .older), ("-ef", .sameFile)]

def passes (find : String → Option Entry) (test : Test) (word : String) : Bool :=
  match test with
  | .isEmpty => word.isEmpty
  | .isNonempty => !word.isEmpty
  | .isThere | .mayRead => (find word).isSome || word = nullDevice
  | .isDirectory | .mayRun => find word = some .directory
  | .isFile => match find word with
    | some (.file _) => true
    | _ => false
  | .isFilled => match find word with
    | some (.file content) => !content.isEmpty
    | some .directory => true
    | none => false
  | .isDevice => word = nullDevice
  | .isOther => false

def number (word : String) : Except ConditionMistake Int :=
  (Integer.ofText? false word).elim (.error (.notANumber word)) .ok

def compares (find : String → Option Entry) (comparison : Comparison) (a b : String) :
    Except ConditionMistake Bool :=
  let numbers := fun (holds : Int → Int → Bool) => do return holds (← number a) (← number b)
  match comparison with
  | .same => .ok (a = b)
  | .different => .ok (a ≠ b)
  | .before => .ok (a < b)
  | .behind => .ok (b < a)
  | .equal => numbers fun a b => a = b
  | .unequal => numbers fun a b => a ≠ b
  | .greater => numbers fun a b => b < a
  | .greaterOrEqual => numbers fun a b => b ≤ a
  | .less => numbers fun a b => a < b
  | .lessOrEqual => numbers fun a b => a ≤ b
  | .newer | .older => .ok false
  | .sameFile => .ok (a = b && (find a).isSome)

/-- Whether a word that could be a test stands for itself instead, by the words behind it. -/
def isOperand : List String → Bool
  | [] => true
  | [_] => false
  | word :: _ => (comparisons.lookup word).isSome

def test? : List String → Option Test
  | word :: rest => if isOperand rest then none else tests.lookup word
  | [] => none

mutual

/-- Whether words hold that are joined by "or", and the words behind them. `fuel` bounds the depth
of the reading. -/
def disjunction (find : String → Option Entry) :
    Nat → List String → Except ConditionMistake (Bool × List String)
  | 0, _ => .error .unclosed
  | fuel + 1, words => do
    let (first, rest) ← conjunction find fuel words
    match rest with
    | "-o" :: rest =>
      let (second, rest) ← disjunction find fuel rest
      return (first || second, rest)
    | rest => return (first, rest)

/-- Whether words hold that are joined by "and", and the words behind them. -/
def conjunction (find : String → Option Entry) :
    Nat → List String → Except ConditionMistake (Bool × List String)
  | 0, _ => .error .unclosed
  | fuel + 1, words => do
    let (first, rest) ← negation find fuel words
    match rest with
    | "-a" :: rest =>
      let (second, rest) ← conjunction find fuel rest
      return (first && second, rest)
    | rest => return (first, rest)

/-- Whether words hold that may be negated, and the words behind them. -/
def negation (find : String → Option Entry) :
    Nat → List String → Except ConditionMistake (Bool × List String)
  | 0, _ => .error .unclosed
  | fuel + 1, words =>
    match words with
    | ["!"] => .ok (true, [])
    | "!" :: rest => (negation find fuel rest).map fun (holds, rest) => (!holds, rest)
    | words => primary find fuel words

/-- Whether a test, a comparison, a single word or words in brackets hold, and the words behind
them. -/
def primary (find : String → Option Entry) :
    Nat → List String → Except ConditionMistake (Bool × List String)
  | 0, _ => .error .unclosed
  | fuel + 1, words =>
    match words with
    | [] => .ok (false, [])
    | "(" :: ")" :: rest => .ok (false, rest)
    | "(" :: next :: rest => do
      match ← disjunction find fuel (next :: rest) with
      | (holds, ")" :: rest) => return (holds, rest)
      | _ => .error .unclosed
    | word :: rest =>
      match test? (word :: rest), rest with
      | some test, operand :: rest => .ok (passes find test operand, rest)
      | some _, [] => .error (.operandMissing word)
      | none, operator :: rest =>
        match comparisons.lookup operator, rest with
        | some comparison, operand :: rest =>
          (compares find comparison word operand).map fun holds => (holds, rest)
        | some _, [] => .error (.operandMissing operator)
        | none, rest => .ok (!word.isEmpty, operator :: rest)
      | none, [] => .ok (!word.isEmpty, [])

end

/-- Whether words hold that are read from the first one to the last. -/
def reads (find : String → Option Entry) (words : List String) :
    Except ConditionMistake Bool := do
  match ← disjunction find (8 * words.length + 16) words with
  | (holds, []) => return holds
  | (_, rest) => .error (.unexpected ((words[words.length - rest.length - 1]?).getD ""))

/-- Whether all words together hold. Three words with a comparison in the middle are always that
comparison. `fuel` bounds the number of negations. -/
def judge (find : String → Option Entry) : Nat → List String → Except ConditionMistake Bool
  | 0, _ => .error .unclosed
  | fuel + 1, words =>
    match words with
    | [] => .ok false
    | [a, operator, b] =>
      match comparisons.lookup operator with
      | some comparison => compares find comparison a b
      | none =>
        if a = "(" && b = ")" then reads find [operator]
        else if a = "!" then (judge find fuel [operator, b]).map (!·)
        else reads find words
    | [a, b, c, d] =>
      if a = "(" && d = ")" then reads find [b, c]
      else if a = "!" then (judge find fuel [b, c, d]).map (!·)
      else reads find words
    | words => reads find words

def holds (find : String → Option Entry) (words : List String) : Except ConditionMistake Bool :=
  judge find (words.length + 1) words

end Condition

end DramSweep.Shell
