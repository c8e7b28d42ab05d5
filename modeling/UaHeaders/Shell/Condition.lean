import UaHeaders.Shell.Printing

/-!
# Conditions

What `test` and `[` say about files, texts and numbers.

## Main definitions

* `UaHeaders.Shell.Condition.Fault` — why a condition has no meaning.
* `UaHeaders.Shell.Condition.unary`, `binary` — conditions with one operator.
* `UaHeaders.Shell.Condition.value` — conditions with several.
* `UaHeaders.Shell.testUtility` — the utility.
-/

set_option autoImplicit false

namespace UaHeaders.Shell

namespace Condition

/-- **Why a condition has no meaning.** -/
inductive Fault where
  | unexpectedOperator (word : String)
  | illegalNumber (word : String)

/-- The wording of a fault. -/
def Fault.message : Fault → String
  | unexpectedOperator word => word ++ ": unexpected operator"
  | illegalNumber word => "Illegal number: " ++ word

/-- The whole number a text writes, perhaps with a sign. -/
def number (s : String) : Except Fault Int :=
  let cs := (s.toList.dropWhile (· == ' ')).reverse.dropWhile (· == ' ') |>.reverse
  let (negative, digits) := match cs with
    | '-' :: cs => (true, cs)
    | '+' :: cs => (false, cs)
    | _ => (false, cs)
  if digits.isEmpty || !digits.all Char.isDigit then .error (.illegalNumber s)
  else .ok (if negative then -(decimalValue digits : Int) else decimalValue digits)

/-- **What a condition with one operand says**, if the operator is one. -/
def unary? (p : Process) (t : FileTree) (op arg : String) : Option Bool :=
  match op with
  | "-n" => some (!arg.isEmpty)
  | "-z" => some arg.isEmpty
  | "-e" => some (t.pathExists (p.pathOf arg))
  | "-f" => some (t.isFile (p.pathOf arg))
  | "-d" => some (t.isDir (p.pathOf arg))
  | "-r" => some (t.pathExists (p.pathOf arg))
  | "-w" => some (t.pathExists (p.pathOf arg))
  | "-x" =>
    some (match t.mode? (p.pathOf arg) with
      | .ok mode => mode &&& 0o111 != 0
      | .error _ => false)
  | "-s" =>
    some (match t.read (p.pathOf arg) with
      | .ok content => content.size > 0
      | .error cause => cause == .isDirectory)
  | "-L" => some false
  | "-h" => some false
  | "-t" => some false
  | _ => none

/-- Compares two whole numbers. -/
def compare? (op : String) : Option (Int → Int → Bool) :=
  match op with
  | "-eq" => some fun a b => a == b
  | "-ne" => some fun a b => a != b
  | "-lt" => some fun a b => a < b
  | "-le" => some fun a b => a ≤ b
  | "-gt" => some fun a b => a > b
  | "-ge" => some fun a b => a ≥ b
  | _ => none

/-- **What a condition with two operands says**, if the operator is one. -/
def binary? (a op b : String) : Option (Except Fault Bool) :=
  match op with
  | "=" => some (.ok (a == b))
  | "!=" => some (.ok (a != b))
  | "<" => some (.ok (decide (a < b)))
  | ">" => some (.ok (decide (b < a)))
  | _ => (compare? op).map fun f => do return f (← number a) (← number b)

/-- **What a condition says**: single texts and operators, joined by `!`, `-a` and `-o`. -/
def value (p : Process) (t : FileTree) : Nat → List String → Except Fault Bool
  | 0, _ => .ok false
  | _ + 1, [] => .ok false
  | _ + 1, [a] => .ok (!a.isEmpty)
  | bound + 1, ["!", a] => (value p t bound [a]).map (!·)
  | _ + 1, [op, a] =>
    match unary? p t op a with
    | some v => .ok v
    | none => .error (.unexpectedOperator op)
  | bound + 1, a :: op :: b :: rest =>
    let joined := fun (v : Bool) (rest : List String) =>
      match rest with
      | [] => .ok v
      | "-a" :: more => (value p t bound more).map (v && ·)
      | "-o" :: more => (value p t bound more).map (v || ·)
      | word :: _ => .error (.unexpectedOperator word)
    match binary? a op b with
    | some v => do joined (← v) rest
    | none =>
      if op == "-a" || op == "-o" then joined (!a.isEmpty) (op :: b :: rest)
      else if a == "!" then (value p t bound (op :: b :: rest)).map (!·)
      else
        match unary? p t a op with
        | some v => joined v (b :: rest)
        | none => .error (.unexpectedOperator a)

end Condition

/-- **Succeeds if a condition holds**, fails with one if not and with two if it has no meaning. -/
def testUtility (name : String) : Utility := fun p t args =>
  match Condition.value p t (args.length + 1) args with
  | .ok v => (p.withStatus (if v then 0 else 1), t)
  | .error fault => p.blame t 2 (name ++ ": " ++ fault.message)

/-- The same between brackets. -/
def bracketUtility : Utility := fun p t args =>
  if args.getLast? == some "]" then testUtility "[" p t args.dropLast
  else p.blame t 2 "[: missing ]"

end UaHeaders.Shell
