import Automation.Template

/-!
# Tokens of conditions

A condition is cut into placeholders, quoted texts, numbers, symbols and words. White space parts
tokens and is dropped. Of the symbols the longest that fits is taken.
-/

namespace Automation.Condition

/-- A comparison. -/
inductive Comparison where
  | strictEqual
  | strictUnequal
  | equal
  | unequal
  | atLeast
  | atMost
  | greater
  | less
deriving DecidableEq, Repr

namespace Comparison

/-- All comparisons, longer symbols first. -/
def all : List Comparison :=
  [.strictEqual, .strictUnequal, .equal, .unequal, .atLeast, .atMost, .greater, .less]

/-- The symbol of a comparison. -/
def symbol : Comparison → String
  | .strictEqual => "==="
  | .strictUnequal => "!=="
  | .equal => "=="
  | .unequal => "!="
  | .atLeast => ">="
  | .atMost => "<="
  | .greater => ">"
  | .less => "<"

end Comparison

/-- A symbol. -/
inductive Symbol where
  | compare (op : Comparison)
  | and
  | or
  | not
  | opening
  | closing
deriving DecidableEq, Repr

/-- The text of a symbol. -/
def Symbol.text : Symbol → String
  | .compare op => op.symbol
  | .and => "&&"
  | .or => "||"
  | .not => "!"
  | .opening => "("
  | .closing => ")"

/-- A token. What a message may have to show is kept as it was written. -/
inductive Token where
  | placeholder (path verbatim : String)
  | text (value verbatim : String)
  | number (verbatim : String)
  | symbol (s : Symbol)
  | word (path : String)
deriving DecidableEq, Repr

/-- A token as it was written. -/
def Token.verbatim : Token → String
  | .placeholder _ verbatim => verbatim
  | .text _ verbatim => verbatim
  | .number verbatim => verbatim
  | .symbol s => s.text
  | .word path => path

/-! ## Cutting -/

/-- A quoted text behind its opening quote: the value, the characters up to the closing quote as
written, and the rest. A backslash makes the next character plain; it does not work on a line
break. -/
def takeQuoted? (quote : Char) : List Char → Option (List Char × List Char × List Char)
  | [] => none
  | c :: rest =>
    if c == quote then some ([], [], rest)
    else if c == '\\' then
      match rest with
      | d :: rest =>
        if d == '\n' then none
        else (takeQuoted? quote rest).map fun (value, raw, rest) =>
          (d :: value, c :: d :: raw, rest)
      | [] => none
    else (takeQuoted? quote rest).map fun (value, raw, rest) => (c :: value, c :: raw, rest)

/-- A number in front of a text: a sign, digits, and perhaps a fraction. -/
def takeNumber? (cs : List Char) : Option (List Char × List Char) :=
  let (sign, cs) := match cs with
    | '-' :: rest => (['-'], rest)
    | _ => ([], cs)
  let whole := cs.takeWhile Text.isDecimal
  if whole.isEmpty then none else
  let rest := cs.drop whole.length
  match rest with
  | '.' :: after =>
    let fraction := after.takeWhile Text.isDecimal
    if fraction.isEmpty then some (sign ++ whole, rest)
    else some (sign ++ whole ++ '.' :: fraction, after.drop fraction.length)
  | _ => some (sign ++ whole, rest)

/-- A symbol in front of a text. -/
def takeSymbol? : List Char → Option (Symbol × List Char)
  | '=' :: '=' :: '=' :: rest => some (.compare .strictEqual, rest)
  | '!' :: '=' :: '=' :: rest => some (.compare .strictUnequal, rest)
  | '=' :: '=' :: rest => some (.compare .equal, rest)
  | '!' :: '=' :: rest => some (.compare .unequal, rest)
  | '>' :: '=' :: rest => some (.compare .atLeast, rest)
  | '<' :: '=' :: rest => some (.compare .atMost, rest)
  | '&' :: '&' :: rest => some (.and, rest)
  | '|' :: '|' :: rest => some (.or, rest)
  | '<' :: rest => some (.compare .less, rest)
  | '>' :: rest => some (.compare .greater, rest)
  | '!' :: rest => some (.not, rest)
  | '(' :: rest => some (.opening, rest)
  | ')' :: rest => some (.closing, rest)
  | _ => none

/-- The token in front of a text, which starts with no white space, and the rest. -/
def takeToken? (cs : List Char) : Option (Token × List Char) :=
  match Template.takePlaceholder? cs with
  | some (path, rest) =>
    some (.placeholder path (String.ofList (cs.take (cs.length - rest.length))), rest)
  | none =>
    let quoted : Option (Token × List Char) := match cs with
      | c :: rest =>
        if c == '"' || c == '\'' then
          (takeQuoted? c rest).map fun (value, raw, rest) =>
            (.text (String.ofList value) (String.ofList (c :: raw ++ [c])), rest)
        else none
      | [] => none
    quoted.orElse fun _ =>
      match takeNumber? cs with
      | some (digits, rest) => some (.number (String.ofList digits), rest)
      | none =>
        match takeSymbol? cs with
        | some (s, rest) => some (.symbol s, rest)
        | none => (Template.takePath? cs).map fun (path, rest) => (.word (String.ofList path), rest)

/-- The tokens of a text, or the text that no token starts. -/
def tokensFrom : Nat → List Char → Except (List Char) (List Token)
  | _, [] => .ok []
  | 0, cs => .error cs
  | fuel + 1, c :: rest =>
    if Text.isSpace c then tokensFrom fuel rest
    else match takeToken? (c :: rest) with
      | none => .error (c :: rest)
      | some (token, rest) => (tokensFrom fuel rest).map (token :: ·)

/-- The tokens of a condition, or the offset at which no token starts. -/
def tokens (expression : String) : Except Nat (List Token) :=
  let cs := expression.toList
  (tokensFrom cs.length cs).mapError fun rest => cs.length - rest.length

end Automation.Condition
