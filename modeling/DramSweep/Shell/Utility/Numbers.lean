import DramSweep.Shell.Regex
import DramSweep.Shell.Utility

/-!
Programs that reckon: sequences of integers, and expressions written as a list of words.
-/

namespace DramSweep.Shell.Utility

def integers (first step last : Int) : List Int :=
  if step = 0 ∨ (0 < step ∧ last < first) ∨ (step < 0 ∧ first < last) then [] else
    (List.range ((last - first).tdiv step + 1).toNat).map fun (n : Nat) => first + step * n

/-- Prints the integers from a first one to a last one. -/
def seq : Program := fun arguments =>
  let (separator, rest) := match arguments with
    | "-s" :: separator :: rest => (separator, rest)
    | argument :: rest =>
      match argument.toList with
      | '-' :: 's' :: c :: more => (String.ofList (c :: more), rest)
      | _ => ("\n", arguments)
    | [] => ("\n", [])
  let printAll := fun (numbers : List Int) =>
    if numbers.isEmpty then Run.finish 0
    else Run.print (separator.intercalate (numbers.map Int.repr) ++ "\n")
  match rest.mapM (Integer.ofText? false) with
  | some [last] => printAll (integers 1 1 last)
  | some [first, last] => printAll (integers first 1 last)
  | some [first, step, last] =>
    if step = 0 then Run.complain "seq: invalid step" 1 else printAll (integers first step last)
  | _ => Run.complain "seq: invalid argument" 1

namespace Reckoning

def integer? (word : String) : Option Int :=
  match word.toList with
  | '-' :: digits => (Integer.count? (String.ofList digits)).map fun n => -(n : Int)
  | _ => (Integer.count? word).map fun n => (n : Int)

def isNothing (value : String) : Bool :=
  value.isEmpty || integer? value = some 0

/-- What a pattern finds at the start of a text: its group, or how many characters it takes. -/
def matched? (text pattern : String) : Option String :=
  let body := match pattern.toList with
    | '^' :: rest => rest
    | rest => rest
  (Regex.read? false body).map fun regex =>
    let chars := text.toList.toArray
    let grouped := regex.hasGroup
    match regex.matchAt? chars 0 with
    | some place =>
      if grouped then String.ofList (place.taken chars 1) else Nat.repr place.position
    | none => if grouped then "" else "0"

/-- What an operator makes of two values, and the status if it makes nothing. -/
def combine (operator a b : String) : Except Nat String :=
  let truth := fun (holds : Bool) => .ok (if holds then "1" else "0")
  let order := match integer? a, integer? b with
    | some a, some b => compare a b
    | _, _ => compareOfLessAndEq a b
  let reckoned := fun (f : Int → Int → Option Int) =>
    match integer? a, integer? b with
    | some a, some b => (f a b).elim (.error 2) fun n => .ok (Int.repr n)
    | _, _ => .error 2
  match operator with
  | "|" => .ok (if !isNothing a then a else if isNothing b then "0" else b)
  | "&" => .ok (if isNothing a || isNothing b then "0" else a)
  | "=" | "==" => truth (order = .eq)
  | "!=" => truth (order ≠ .eq)
  | "<" => truth (order = .lt)
  | "<=" => truth (order ≠ .gt)
  | ">" => truth (order = .gt)
  | ">=" => truth (order ≠ .lt)
  | "+" => reckoned fun a b => some (a + b)
  | "-" => reckoned fun a b => some (a - b)
  | "*" => reckoned fun a b => some (a * b)
  | "/" => reckoned fun a b => if b = 0 then none else some (a.tdiv b)
  | "%" => reckoned fun a b => if b = 0 then none else some (a.tmod b)
  | ":" => (matched? a b).elim (.error 2) .ok
  | _ => .error 2

/-- How strongly operators bind, the weakest first. -/
def levels : List (List String) :=
  [["|"], ["&"], ["=", "==", "!=", "<", "<=", ">", ">="], ["+", "-"], ["*", "/", "%"], [":"]]

mutual

/-- The value of words that operators of some levels join, and the words behind them. `fuel`
bounds the depth. -/
def value : Nat → List (List String) → List String → Except Nat (String × List String)
  | 0, _, _ => .error 2
  | fuel + 1, [], words => operand fuel words
  | fuel + 1, level :: stronger, words => do
    let (first, rest) ← value fuel stronger words
    following fuel level stronger first rest

/-- Goes on behind a first value as long as operators of a level follow. -/
def following : Nat → List String → List (List String) → String → List String →
    Except Nat (String × List String)
  | 0, _, _, _, _ => .error 2
  | fuel + 1, level, stronger, first, words =>
    match words with
    | operator :: rest =>
      if level.contains operator then do
        let (second, rest) ← value fuel stronger rest
        following fuel level stronger (← combine operator first second) rest
      else .ok (first, words)
    | [] => .ok (first, [])

/-- The value of a single word, of words in brackets or of a function. -/
def operand : Nat → List String → Except Nat (String × List String)
  | 0, _ => .error 2
  | fuel + 1, words =>
    match words with
    | "(" :: rest => do
      match ← value fuel levels rest with
      | (found, ")" :: rest) => .ok (found, rest)
      | _ => .error 2
    | "+" :: word :: rest => .ok (word, rest)
    | "length" :: rest => do
      let (text, rest) ← operand fuel rest
      return (Nat.repr text.length, rest)
    | "match" :: rest => do
      let (text, rest) ← operand fuel rest
      let (pattern, rest) ← operand fuel rest
      return (← combine ":" text pattern, rest)
    | "index" :: rest => do
      let (text, rest) ← operand fuel rest
      let (set, rest) ← operand fuel rest
      let place := (text.toList.findIdx? fun c => set.toList.contains c).map (· + 1)
      return (Nat.repr (place.getD 0), rest)
    | "substr" :: rest => do
      let (text, rest) ← operand fuel rest
      let (start, rest) ← operand fuel rest
      let (count, rest) ← operand fuel rest
      match integer? start, integer? count with
      | some start, some count =>
        if start ≤ 0 || count ≤ 0 then return ("", rest)
        return (String.ofList ((text.toList.drop (start.toNat - 1)).take count.toNat), rest)
      | _, _ => return ("", rest)
    | word :: rest => .ok (word, rest)
    | [] => .error 2

end

end Reckoning

/-- Prints the value of an expression. A value that counts as nothing makes the command fail. -/
def expr : Program := fun arguments =>
  let words := if arguments.head? = some "--" then arguments.tail else arguments
  match Reckoning.value (16 * words.length + 16) Reckoning.levels words with
  | .ok (found, []) => do
    Run.print (found ++ "\n")
    if Reckoning.isNothing found then Run.finish 1
  | .ok _ => Run.complain "expr: syntax error" 2
  | .error status => Run.complain "expr: syntax error" status

end DramSweep.Shell.Utility
