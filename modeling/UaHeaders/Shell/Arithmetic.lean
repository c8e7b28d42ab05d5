import UaHeaders.Shell.Word

/-!
# Arithmetic

The whole-number expressions of `$((…))`: numbers, variables, signs, parentheses and the binary
operators, which bind in ten levels and group to the left, below the choice `a ? b : c`.

## Main definitions

* `UaHeaders.Shell.Arithmetic.Fault` — what is wrong with an expression.
* `UaHeaders.Shell.Arithmetic.value` — the value of an expression.

## Implementation notes

Values are kept in 64 bits. The reader evaluates as it reads; its bound is larger than the number of
characters times the number of levels.
-/

set_option autoImplicit false

namespace UaHeaders.Shell.Arithmetic

/-- **What is wrong with an expression.** -/
inductive Fault where
  | missingPrimary
  | missingParenthesis
  | missingColon
  | trailingText
  | divisionByZero
  | illegalNumber (text : String)

/-- The wording of a fault in the expression `text`. -/
def Fault.message (text : String) : Fault → String
  | missingPrimary => "arithmetic expression: expecting primary: \"" ++ text ++ "\""
  | missingParenthesis => "arithmetic expression: expecting ')': \"" ++ text ++ "\""
  | missingColon => "arithmetic expression: expecting ':': \"" ++ text ++ "\""
  | trailingText => "arithmetic expression: expecting EOF: \"" ++ text ++ "\""
  | divisionByZero => "arithmetic expression: division by zero: \"" ++ text ++ "\""
  | illegalNumber number => "Illegal number: " ++ number

/-- A number in 64 bits. -/
def wrap (n : Int) : Int := (Int64.ofInt n).toInt

/-- One for a condition that holds, else zero. -/
def truth (b : Bool) : Int := if b then 1 else 0

/-- A binary operator: its text and its meaning. -/
structure Operator where
  text : String
  apply : Int → Int → Except Fault Int

/-- An operator that always has a value. -/
def total (text : String) (f : Int → Int → Int) : Operator := ⟨text, fun a b => .ok (wrap (f a b))⟩

/-- A division; by zero it has no value. -/
def dividing (text : String) (f : Int → Int → Int) : Operator :=
  ⟨text, fun a b => if b == 0 then .error .divisionByZero else .ok (wrap (f a b))⟩

/-- An operator on the bits of two numbers. -/
def bitwise (text : String) (f : Int64 → Int64 → Int64) : Operator :=
  total text fun a b => (f (Int64.ofInt a) (Int64.ofInt b)).toInt

/-- **The levels of operators**, the loosest first. In one level no operator begins another that stands
behind it. -/
def levels : List (List Operator) :=
  [[total "||" fun a b => truth (a != 0 || b != 0)],
    [total "&&" fun a b => truth (a != 0 && b != 0)],
    [bitwise "|" (· ||| ·)],
    [bitwise "^" (· ^^^ ·)],
    [bitwise "&" (· &&& ·)],
    [total "==" fun a b => truth (a == b), total "!=" fun a b => truth (a != b)],
    [total "<=" fun a b => truth (a ≤ b), total ">=" fun a b => truth (a ≥ b),
      total "<" fun a b => truth (a < b), total ">" fun a b => truth (a > b)],
    [bitwise "<<" (· <<< ·), bitwise ">>" (· >>> ·)],
    [total "+" (· + ·), total "-" (· - ·)],
    [total "*" (· * ·), dividing "/" Int.tdiv, dividing "%" Int.tmod]]

/-- Texts of other operators that begin with the text of one. -/
def longer : String → List String
  | "|" => ["||"]
  | "&" => ["&&"]
  | "<" => ["<<"]
  | ">" => [">>"]
  | _ => []

/-- The text without white space at its start. -/
def skipWhite (cs : List Char) : List Char := cs.dropWhile fun c => " \t\n".toList.contains c

/-- The operator of a level at the start of the text, and the rest. -/
def operator? (level : List Operator) (cs : List Char) : Option (Operator × List Char) :=
  (level.find? fun o =>
    o.text.toList.isPrefixOf cs && !(longer o.text).any fun l => l.toList.isPrefixOf cs).map
      fun o => (o, cs.drop o.text.length)

/-- The number written by decimal, octal or hexadecimal digits. -/
def number? (text : String) : Option Int :=
  let valueIn := fun (base : Nat) (digits : List Char) =>
    let digit := fun (c : Char) =>
      if c.isDigit then c.toNat - 48 else if c.isUpper then c.toNat - 55 else c.toNat - 87
    if !digits.isEmpty && digits.all (fun c => c.isAlphanum && digit c < base) then
      some (digits.foldl (fun n c => n * base + digit c) 0 : Nat)
    else none
  let magnitude := fun (cs : List Char) =>
    match cs with
    | '0' :: 'x' :: digits => valueIn 16 digits
    | '0' :: 'X' :: digits => valueIn 16 digits
    | '0' :: d :: digits => valueIn 8 (d :: digits)
    | digits => valueIn 10 digits
  match text.toList with
  | '-' :: cs => (magnitude cs).map fun n => -(n : Int)
  | cs => (magnitude cs).map Int.ofNat

/-- The value of a variable; one that is not set or empty counts as zero. -/
def variableValue (lookup : String → Option String) (name : String) : Except Fault Int :=
  match lookup name with
  | none => .ok 0
  | some "" => .ok 0
  | some text =>
    match number? text with
    | some n => .ok n
    | none => .error (.illegalNumber text)

mutual

/-- A choice, or what binds closer. -/
def readChoice (lookup : String → Option String) (bound : Nat) (cs : List Char) :
    Except Fault (Int × List Char) :=
  match bound with
  | 0 => .error .missingPrimary
  | bound + 1 => do
    let (test, rest) ← readLevel lookup bound levels cs
    match skipWhite rest with
    | '?' :: rest => do
      let (yes, rest) ← readChoice lookup bound rest
      match skipWhite rest with
      | ':' :: rest => do
        let (no, rest) ← readChoice lookup bound rest
        .ok (if test == 0 then no else yes, rest)
      | _ => .error .missingColon
    | rest => .ok (test, rest)

/-- An expression of the first of the levels or of closer ones. -/
def readLevel (lookup : String → Option String) (bound : Nat) (at_ : List (List Operator))
    (cs : List Char) : Except Fault (Int × List Char) :=
  match bound, at_ with
  | 0, _ => .error .missingPrimary
  | bound + 1, [] => readPrimary lookup bound (skipWhite cs)
  | bound + 1, level :: closer => do
    let (first, rest) ← readLevel lookup bound closer cs
    readOperands lookup bound level closer first rest

/-- Goes on behind an operand of a level. -/
def readOperands (lookup : String → Option String) (bound : Nat) (level : List Operator)
    (closer : List (List Operator)) (first : Int) (cs : List Char) :
    Except Fault (Int × List Char) :=
  match bound, operator? level (skipWhite cs) with
  | 0, _ => .error .missingPrimary
  | _ + 1, none => .ok (first, cs)
  | bound + 1, some (operator, rest) => do
    let (second, rest) ← readLevel lookup bound closer rest
    readOperands lookup bound level closer (← operator.apply first second) rest

/-- A number, a variable, or an expression in parentheses, perhaps with signs before it. -/
def readPrimary (lookup : String → Option String) (bound : Nat) (cs : List Char) :
    Except Fault (Int × List Char) :=
  match bound, cs with
  | 0, _ => .error .missingPrimary
  | bound + 1, '-' :: cs => do
    let (n, rest) ← readPrimary lookup bound (skipWhite cs)
    .ok (wrap (-n), rest)
  | bound + 1, '+' :: cs => readPrimary lookup bound (skipWhite cs)
  | bound + 1, '!' :: cs => do
    let (n, rest) ← readPrimary lookup bound (skipWhite cs)
    .ok (truth (n == 0), rest)
  | bound + 1, '~' :: cs => do
    let (n, rest) ← readPrimary lookup bound (skipWhite cs)
    .ok (-n - 1, rest)
  | bound + 1, '(' :: cs => do
    let (n, rest) ← readChoice lookup bound cs
    match skipWhite rest with
    | ')' :: rest => .ok (n, rest)
    | _ => .error .missingParenthesis
  | _ + 1, cs =>
    let text := cs.takeWhile isNameChar
    let rest := cs.dropWhile isNameChar
    match text with
    | [] => .error .missingPrimary
    | c :: _ =>
      if c.isDigit then
        match number? (String.ofList text) with
        | some n => .ok (wrap n, rest)
        | none => .error .missingPrimary
      else do
        let n ← variableValue lookup (String.ofList text)
        .ok (n, rest)

end

/-- **The value of an expression**, with the values of variables given. An empty expression is zero. -/
def value (lookup : String → Option String) (text : String) : Except Fault Int :=
  let cs := skipWhite text.toList
  if cs.isEmpty then .ok 0
  else do
    let (n, rest) ← readChoice lookup (16 * (cs.length + 2)) cs
    if (skipWhite rest).isEmpty then .ok n else .error .trailingText

end UaHeaders.Shell.Arithmetic
