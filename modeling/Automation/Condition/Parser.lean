import Automation.Condition.Token

/-!
# Reading conditions

From tokens to a tree, by the grammar

* `expr := conjunction ('||' conjunction)*`
* `conjunction := unary ('&&' unary)*`
* `unary := '!' unary | comparison`
* `comparison := operand (op operand)?`
* `operand := '(' expr ')' | literal | placeholder | path`

Both connectives group to the left.
-/

namespace Automation.Condition

/-- A condition as a tree. -/
inductive Expr where
  | literal (v : Value)
  | path (p : String)
  | not (e : Expr)
  | and (l r : Expr)
  | or (l r : Expr)
  | compare (op : Comparison) (l r : Expr)
deriving DecidableEq

/-- A condition as nested lists, each of which begins with a word for what it is. -/
def Expr.toValue : Expr → Value
  | .literal v => .list [.text "lit", v]
  | .path p => .list [.text "var", .text p]
  | .not e => .list [.text "not", e.toValue]
  | .and l r => .list [.text "and", l.toValue, r.toValue]
  | .or l r => .list [.text "or", l.toValue, r.toValue]
  | .compare op l r => .list [.text "cmp", .text op.symbol, l.toValue, r.toValue]

/-- Why a condition cannot be read. -/
inductive SyntaxFault where
  | character (position : Nat)
  | token (verbatim : String)
  | unexpectedEnd
  | unclosed
  | empty
deriving DecidableEq, Repr

/-- The fault in words. -/
def SyntaxFault.message : SyntaxFault → String
  | .character position => s!"unexpected character at position {position}"
  | .token verbatim => s!"unexpected token '{verbatim}'"
  | .unexpectedEnd => "unexpected end of expression"
  | .unclosed => "missing closing parenthesis"
  | .empty => "empty expression"

/-- Why reading stops: a fault of syntax, or an integer of too many digits. -/
inductive ReadFault where
  | badSyntax (fault : SyntaxFault)
  | longInteger (digits : Nat)
deriving DecidableEq, Repr

/-- The words that are literals. -/
def keyword? (word : String) : Option Value :=
  if word = "true" then some (.bool true)
  else if word = "false" then some (.bool false)
  else if word = "null" || word = "undefined" then some .null
  else none

/-- The value of a number's text: a float if it has a point. -/
def numberValue (verbatim : String) : Except ReadFault Value :=
  let cs := verbatim.toList
  if cs.contains '.' then .ok (.float ((Number.readFloat? verbatim).getD 0.0))
  else
    let (negative, digits) := Number.takeSign cs
    if Number.digitLimit < digits.length then .error (.longInteger digits.length)
    else
      let n : Int := (Text.natOfDigits? digits).getD 0
      .ok (.int (if negative then -n else n))

mutual

/-- A disjunction in front of tokens, with the rest. -/
def readOr : Nat → List Token → Except ReadFault (Expr × List Token)
  | 0, _ => .error (.badSyntax .unexpectedEnd)
  | fuel + 1, ts => do
    let (left, rest) ← readAnd fuel ts
    readOrTail fuel left rest

/-- The further parts of a disjunction. -/
def readOrTail : Nat → Expr → List Token → Except ReadFault (Expr × List Token)
  | fuel + 1, left, .symbol .or :: rest => do
    let (right, rest) ← readAnd fuel rest
    readOrTail fuel (.or left right) rest
  | _, left, rest => .ok (left, rest)

/-- A conjunction in front of tokens, with the rest. -/
def readAnd : Nat → List Token → Except ReadFault (Expr × List Token)
  | 0, _ => .error (.badSyntax .unexpectedEnd)
  | fuel + 1, ts => do
    let (left, rest) ← readUnary fuel ts
    readAndTail fuel left rest

/-- The further parts of a conjunction. -/
def readAndTail : Nat → Expr → List Token → Except ReadFault (Expr × List Token)
  | fuel + 1, left, .symbol .and :: rest => do
    let (right, rest) ← readUnary fuel rest
    readAndTail fuel (.and left right) rest
  | _, left, rest => .ok (left, rest)

/-- A negation or a comparison in front of tokens, with the rest. -/
def readUnary : Nat → List Token → Except ReadFault (Expr × List Token)
  | 0, _ => .error (.badSyntax .unexpectedEnd)
  | fuel + 1, .symbol .not :: rest => do
    let (e, rest) ← readUnary fuel rest
    return (.not e, rest)
  | fuel + 1, ts => do
    let (left, rest) ← readOperand fuel ts
    match rest with
    | .symbol (.compare op) :: rest =>
      let (right, rest) ← readOperand fuel rest
      return (.compare op left right, rest)
    | rest => return (left, rest)

/-- An operand in front of tokens, with the rest. -/
def readOperand : Nat → List Token → Except ReadFault (Expr × List Token)
  | _, [] => .error (.badSyntax .unexpectedEnd)
  | 0, _ => .error (.badSyntax .unexpectedEnd)
  | _, .placeholder path _ :: rest => .ok (.path path, rest)
  | _, .text value _ :: rest => .ok (.literal (.text value), rest)
  | _, .number verbatim :: rest => do
    let v ← numberValue verbatim
    return (.literal v, rest)
  | _, .word word :: rest =>
    match keyword? word with
    | some v => .ok (.literal v, rest)
    | none => .ok (.path word, rest)
  | fuel + 1, .symbol .opening :: rest => do
    let (e, rest) ← readOr fuel rest
    match rest with
    | .symbol .closing :: rest => return (e, rest)
    | _ => .error (.badSyntax .unclosed)
  | _, token :: _ => .error (.badSyntax (.token token.verbatim))

end

/-- The tree of all tokens. -/
def ofTokens (ts : List Token) : Except ReadFault Expr :=
  match ts with
  | [] => .error (.badSyntax .empty)
  | _ => do
    let (e, rest) ← readOr (8 * ts.length + 8) ts
    match rest with
    | [] => return e
    | token :: _ => .error (.badSyntax (.token token.verbatim))

/-- The tree of a condition. -/
def read (expression : String) : Except ReadFault Expr :=
  match tokens expression with
  | .error position => .error (.badSyntax (.character position))
  | .ok ts => ofTokens ts

/-- The message about a fault of syntax in a condition. -/
def syntaxMessage (expression : String) (fault : SyntaxFault) : String :=
  s!"Invalid condition '{expression}': {fault.message}"

end Automation.Condition
