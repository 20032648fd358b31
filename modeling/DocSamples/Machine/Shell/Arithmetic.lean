import DocSamples.Machine.Shell.Format

/-!
Contract: the arithmetic of the shell.

Owns:
- the tokens of an expression;
- its value, given the values of variables.

Operators bind as usual: signs and `!` first, then products, sums, comparisons,
equalities, `&&` and `||`.  A truth value is one or zero.  `fuel` bounds the
recursion; the wrapper gives more than an expression can use.
-/

namespace DocSamples.Shell

inductive ArithmeticToken where
  | number (value : Nat)
  | name (name : RawText)
  | operator (spelling : RawText)
deriving DecidableEq

/-- The operators of two characters. -/
def longOperators : List RawText :=
  ["<=", ">=", "==", "!=", "&&", "||"].map String.toList

/-- The tokens of an expression.  `collected` is a number or a name that has been
begun, its last character first. -/
def arithmeticTokens (collected : RawText) : RawText → List ArithmeticToken
  | [] => flush []
  | first :: rest =>
    if first.isAlphanum || first == '_' then arithmeticTokens (first :: collected) rest
    else if [' ', '\t', '\n'].contains first then flush (arithmeticTokens [] rest)
    else
      match rest with
      | second :: more =>
        if longOperators.contains [first, second] then
          flush (.operator [first, second] :: arithmeticTokens [] more)
        else flush (.operator [first] :: arithmeticTokens [] (second :: more))
      | [] => flush [.operator [first]]
where
  /-- Put the token that has been collected in front of others. -/
  flush (later : List ArithmeticToken) : List ArithmeticToken :=
    match collected.reverse with
    | [] => later
    | word =>
      if word.all Char.isDigit then .number (numberOf word) :: later else .name word :: later

/-- The operators of each level of binding, the loosest first. -/
def operatorLevels : List (List RawText) :=
  [["||"], ["&&"], ["==", "!="], ["<=", ">=", "<", ">"], ["+", "-"], ["*", "/", "%"]].map
    (·.map String.toList)

def truthNumber (truth : Bool) : Int :=
  if truth then 1 else 0

/-- What an operator makes of two numbers; nothing for a division by zero. -/
def applyOperator (operator : RawText) (left right : Int) : Option Int :=
  match String.ofList operator with
  | "||" => some (truthNumber (left != 0 || right != 0))
  | "&&" => some (truthNumber (left != 0 && right != 0))
  | "==" => some (truthNumber (left == right))
  | "!=" => some (truthNumber (left != right))
  | "<=" => some (truthNumber (left ≤ right))
  | ">=" => some (truthNumber (left ≥ right))
  | "<" => some (truthNumber (left < right))
  | ">" => some (truthNumber (left > right))
  | "+" => some (left + right)
  | "-" => some (left - right)
  | "*" => some (left * right)
  | "/" => if right == 0 then none else some (left.tdiv right)
  | "%" => if right == 0 then none else some (left.tmod right)
  | _ => none

mutual

/-- The value of the tokens up to an operator that binds less than the given
levels, and the tokens that are left. -/
def evaluateLevels (lookup : RawText → Int) (fuel : Nat) (levels : List (List RawText))
    (tokens : List ArithmeticToken) : Option (Int × List ArithmeticToken) :=
  match fuel, levels with
  | 0, _ => none
  | fuel + 1, [] => evaluateOperand lookup fuel tokens
  | fuel + 1, level :: tighter =>
    match evaluateLevels lookup fuel tighter tokens with
    | none => none
    | some (left, rest) => evaluateMore lookup fuel level tighter left rest

def evaluateMore (lookup : RawText → Int) (fuel : Nat) (level : List RawText)
    (tighter : List (List RawText)) (left : Int) (tokens : List ArithmeticToken) :
    Option (Int × List ArithmeticToken) :=
  match fuel, tokens with
  | fuel + 1, .operator spelling :: rest =>
    if level.contains spelling then
      match evaluateLevels lookup fuel tighter rest with
      | none => none
      | some (right, after) =>
        match applyOperator spelling left right with
        | none => none
        | some value => evaluateMore lookup fuel level tighter value after
    else some (left, tokens)
  | _, _ => some (left, tokens)

/-- The value of an operand: a number, a variable, something in brackets, or one of
these with a sign. -/
def evaluateOperand (lookup : RawText → Int) (fuel : Nat) (tokens : List ArithmeticToken) :
    Option (Int × List ArithmeticToken) :=
  match fuel, tokens with
  | _, .number value :: rest => some (value, rest)
  | _, .name name :: rest => some (lookup name, rest)
  | fuel + 1, .operator ['('] :: rest =>
    match evaluateLevels lookup fuel operatorLevels rest with
    | some (value, .operator [')'] :: after) => some (value, after)
    | _ => none
  | fuel + 1, .operator ['-'] :: rest =>
    (evaluateOperand lookup fuel rest).map fun (value, after) => (-value, after)
  | fuel + 1, .operator ['+'] :: rest => evaluateOperand lookup fuel rest
  | fuel + 1, .operator ['!'] :: rest =>
    (evaluateOperand lookup fuel rest).map fun (value, after) => (truthNumber (value == 0), after)
  | _, _ => none

end

/-- The value of an expression, if it has one.  The empty expression is zero. -/
def evaluateArithmetic (lookup : RawText → Int) (expression : RawText) : Option Int :=
  match arithmeticTokens [] expression with
  | [] => some 0
  | tokens =>
    match evaluateLevels lookup (8 * tokens.length + 16) operatorLevels tokens with
    | some (value, []) => some value
    | _ => none

end DocSamples.Shell
