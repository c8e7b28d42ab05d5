import UaHeaders.Shell.Arithmetic
import UaHeaders.Shell.Process

/-!
# Printing

The utilities that print their arguments, with the backslash escapes and the conversions they know.

## Main definitions

* `UaHeaders.Shell.unescape` — the backslash escapes.
* `UaHeaders.Shell.Conversion` — what a percent sign in a format asks for.
* `UaHeaders.Shell.echo`, `UaHeaders.Shell.printf` — the utilities.
-/

set_option autoImplicit false

namespace UaHeaders.Shell

/-- A command that works on a process, its tree and its arguments. -/
abbrev Utility := Process → FileTree → List String → Process × FileTree

/-- The octets of a list. -/
def octets (bytes : List UInt8) : ByteArray := ⟨bytes.toArray⟩

/-- The octets of a character. -/
def charOctets (c : Char) : List UInt8 := (String.singleton c).toUTF8.toList

/-! ## Escapes -/

/-- Whether a character is an octal digit. -/
def isOctal (c : Char) : Bool := '0' ≤ c && c ≤ '7'

/-- The number an octal text writes. -/
def octalValue (cs : List Char) : Nat := cs.foldl (fun n c => n * 8 + (c.toNat - 48)) 0

/-- The octet for a one-letter escape. -/
def escapeOctet? : Char → Option UInt8
  | 'a' => some 7
  | 'b' => some 8
  | 'f' => some 12
  | 'n' => some 10
  | 'r' => some 13
  | 't' => some 9
  | 'v' => some 11
  | '\\' => some 92
  | _ => none

/-- **The octets of a text with backslash escapes**; `zeroLed` says that octal escapes start with a
zero. A `\c` ends the text, and the second component tells whether it did. -/
def unescape (zeroLed : Bool) : Nat → List Char → List UInt8 × Bool
  | 0, _ => ([], false)
  | _ + 1, [] => ([], false)
  | bound + 1, '\\' :: c :: cs =>
    if c == 'c' then ([], true)
    else
      match escapeOctet? c with
      | some octet =>
        let (more, ended) := unescape zeroLed bound cs
        (octet :: more, ended)
      | none =>
        let digits := if zeroLed then (if c == '0' then cs else []) else c :: cs
        let octal := (digits.take 3).takeWhile isOctal
        if isOctal c && (zeroLed → c == '0') then
          let rest := if zeroLed then cs.drop octal.length else (c :: cs).drop octal.length
          let (more, ended) := unescape zeroLed bound rest
          (UInt8.ofNat (octalValue octal) :: more, ended)
        else
          let (more, ended) := unescape zeroLed bound cs
          (charOctets '\\' ++ charOctets c ++ more, ended)
  | bound + 1, c :: cs =>
    let (more, ended) := unescape zeroLed bound cs
    (charOctets c ++ more, ended)

/-- The octets `unescape` gives for a whole text. -/
def unescaped (zeroLed : Bool) (s : String) : List UInt8 × Bool :=
  unescape zeroLed (s.length + 1) s.toList

/-! ## Conversions -/

/-- **What a percent sign in a format asks for**: flags, the least width, the most characters of a
text or the least digits of a number, and the kind. -/
structure Conversion where
  flags : List Char
  width : Nat
  precision : Option Nat
  kind : Char

/-- The number that digits write. -/
def decimalValue (cs : List Char) : Nat := cs.foldl (fun n c => n * 10 + (c.toNat - 48)) 0

/-- Reads a conversion behind its percent sign. -/
def Conversion.read (cs : List Char) : Option (Conversion × List Char) :=
  let flags := cs.takeWhile "-+ 0#".toList.contains
  let cs := cs.drop flags.length
  let width := cs.takeWhile Char.isDigit
  let cs := cs.drop width.length
  let (precision, cs) := match cs with
    | '.' :: cs => (some (decimalValue (cs.takeWhile Char.isDigit)), cs.dropWhile Char.isDigit)
    | cs => (none, cs)
  match cs with
  | kind :: rest => some (⟨flags, decimalValue width, precision, kind⟩, rest)
  | [] => none

/-- Fills octets up to the width of a conversion. -/
def Conversion.fill (v : Conversion) (bytes : List UInt8) : List UInt8 :=
  let missing := List.replicate (v.width - bytes.length) (32 : UInt8)
  if v.flags.contains '-' then bytes ++ missing else missing ++ bytes

/-- The octets of a text under a conversion. -/
def Conversion.showText (v : Conversion) (bytes : List UInt8) : List UInt8 :=
  v.fill (match v.precision with
    | some n => bytes.take n
    | none => bytes)

/-- The octets of a number under a conversion, in a base. -/
def Conversion.showNumber (v : Conversion) (base : Nat) (n : Int) : List UInt8 :=
  let digits := Nat.toDigits base n.natAbs
  let digits := if v.kind == 'X' then digits.map Char.toUpper else digits
  let sign : List Char :=
    if n < 0 then ['-'] else if v.flags.contains '+' then ['+']
    else if v.flags.contains ' ' then [' '] else []
  let least := match v.precision with
    | some p => p
    | none =>
      if v.flags.contains '0' && !v.flags.contains '-' then v.width - sign.length else 0
  v.fill (String.ofList
    (sign ++ List.replicate (least - digits.length) '0' ++ digits)).toUTF8.toList

/-- The base in which a kind of conversion writes numbers. -/
def Conversion.base? (v : Conversion) : Option Nat :=
  match v.kind with
  | 'd' => some 10
  | 'i' => some 10
  | 'u' => some 10
  | 'x' => some 16
  | 'X' => some 16
  | 'o' => some 8
  | _ => none

/-- The number an argument stands for: digits, or the character behind a quote. -/
def numberOf? (arg : String) : Option Int :=
  match arg.toList with
  | [] => some 0
  | '\'' :: c :: _ => some c.toNat
  | '"' :: c :: _ => some c.toNat
  | '+' :: cs => Arithmetic.number? (String.ofList cs)
  | _ => Arithmetic.number? arg

/-- The octets of an argument under a conversion, and whether it was one that fits. -/
def Conversion.apply (v : Conversion) (arg : String) : List UInt8 × Bool :=
  match v.base? with
  | some base =>
    match numberOf? arg with
    | some n => (v.showNumber base n, true)
    | none => (v.showNumber base 0, false)
  | none =>
    match v.kind with
    | 'b' => (v.showText (unescaped true arg).1, true)
    | 'c' => (v.fill (String.ofList (arg.toList.take 1)).toUTF8.toList, true)
    | _ => (v.showText arg.toUTF8.toList, true)

/-- **What one pass over a format leaves**: what is printed, the arguments left, whether an argument
was asked for, and those that did not fit. -/
structure Pass where
  shown : List UInt8
  left : List String
  used : Bool
  misfits : List String

/-- A pass with octets printed before it. -/
def Pass.after (pass : Pass) (bytes : List UInt8) : Pass := { pass with shown := bytes ++ pass.shown }

/-- One pass over a format. -/
def printOnce : Nat → List Char → List String → Pass
  | 0, _, args => ⟨[], args, false, []⟩
  | _ + 1, [], args => ⟨[], args, false, []⟩
  | bound + 1, '%' :: '%' :: cs, args => (printOnce bound cs args).after [37]
  | bound + 1, '%' :: cs, args =>
    match Conversion.read cs with
    | none => ⟨[37], args, false, []⟩
    | some (conversion, rest) =>
      let (bytes, fits) := conversion.apply (args.headD "")
      let pass := (printOnce bound rest (args.drop 1)).after bytes
      { pass with used := true, misfits := (if fits then [] else args.take 1) ++ pass.misfits }
  | bound + 1, '\\' :: c :: cs, args =>
    let taken := if isOctal c then ((c :: cs).take 3).takeWhile isOctal else [c]
    (printOnce bound ((c :: cs).drop taken.length) args).after (unescape false 5 ('\\' :: taken)).1
  | bound + 1, c :: cs, args => (printOnce bound cs args).after (charOctets c)

/-- What a format prints: once, and again as long as arguments are left and used. -/
def printAll : Nat → String → List String → List UInt8 × List String
  | 0, _, _ => ([], [])
  | bound + 1, format, args =>
    let pass := printOnce (format.length + 1) format.toList args
    if pass.used && !pass.left.isEmpty then
      let (more, misfits) := printAll bound format pass.left
      (pass.shown ++ more, pass.misfits ++ misfits)
    else (pass.shown, pass.misfits)

/-! ## The utilities -/

/-- **Prints its arguments**, with escapes, and a line end unless `-n` comes first. -/
def echo : Utility := fun p t args =>
  let (silent, args) := match args with
    | "-n" :: rest => (true, rest)
    | _ => (false, args)
  let (shown, ended) := unescaped true (" ".intercalate args)
  p.emit t 1 (octets (if silent || ended then shown else shown ++ [10]))

/-- **Prints its arguments by a format.** -/
def printf : Utility := fun p t args =>
  match args with
  | [] => p.blame t 2 "printf: usage: printf format [arg ...]"
  | format :: rest =>
    let (shown, misfits) := printAll (rest.length + 1) format rest
    let (p, t) := misfits.foldl
      (fun (state : Process × FileTree) arg =>
        state.1.blame state.2 1 ("printf: " ++ arg ++ ": expected numeric value"))
      (p, t)
    p.emit t 1 (octets shown)

end UaHeaders.Shell
