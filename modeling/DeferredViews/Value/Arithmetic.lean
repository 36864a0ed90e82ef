import DeferredViews.Value.Markup
import DeferredViews.Value.Percent

/-!
# Arithmetic on values

Truth values count as integers and an integer becomes a double when the other operand is one.
Integer division and remainder round toward minus infinity. Texts and lists can be added and
repeated; in sums with markup the plain text is escaped.
-/
namespace DeferredViews.Value

open Number

inductive ArithmeticOp where
  | add
  | sub
  | mul
  | div
  | floorDiv
  | mod
  | pow
  deriving DecidableEq, Repr

def ArithmeticOp.symbol : ArithmeticOp → String
  | .add => "+"
  | .sub => "-"
  | .mul => "*"
  | .div => "/"
  | .floorDiv => "//"
  | .mod => "%"
  | .pow => "** or pow()"

/-- The double nearest to an integer, if there is one. -/
def toDouble (n : Int) : Except Fault Double :=
  let x := Double.ofInt n
  if x.isFinite then .ok x else .error (.overflow .intToFloat)

/-- A double result that may have left the range. -/
def power (x y : Double) : Except Fault Value :=
  if x.isZero && y.compareInt 0 == some .lt then .error (.zeroDivision .negativePower)
  else
    let z := x.pow y
    if x.isFinite && y.isFinite && !z.isFinite && !z.isNaN then .error (.overflow .power)
    else .ok (float z)

def intArithmetic (op : ArithmeticOp) (a b : Int) : Except Fault Value :=
  match op with
  | .add => .ok (int (a + b))
  | .sub => .ok (int (a - b))
  | .mul => .ok (int (a * b))
  | .div =>
    if b = 0 then .error (.zeroDivision .integers)
    else
      let x := Double.ofRatio ((a < 0) != (b < 0)) a.natAbs b.natAbs
      if x.isFinite then .ok (float x) else .error (.overflow .quotient)
  | .floorDiv =>
    if b = 0 then .error (.zeroDivision .integerFloor) else .ok (int (Int.fdiv a b))
  | .mod =>
    if b = 0 then .error (.zeroDivision .integerRemainder) else .ok (int (Int.fmod a b))
  | .pow =>
    if 0 ≤ b then .ok (int (Int.pow a b.toNat))
    else do
      let x ← toDouble a
      let y ← toDouble b
      power x y

def doubleArithmetic (op : ArithmeticOp) (x y : Double) : Except Fault Value :=
  match op with
  | .add => .ok (float (x.add y))
  | .sub => .ok (float (x.sub y))
  | .mul => .ok (float (x.mul y))
  | .div => if y.isZero then .error (.zeroDivision .floats) else .ok (float (x.div y))
  | .floorDiv =>
    if y.isZero then .error (.zeroDivision .floatFloor) else .ok (float (x.divMod y).1)
  | .mod =>
    if y.isZero then .error (.zeroDivision .floatRemainder) else .ok (float (x.divMod y).2)
  | .pow => power x y

def numericArithmetic (op : ArithmeticOp) : Numeric → Numeric → Except Fault Value
  | .int a, .int b => intArithmetic op a b
  | .int a, .float y => do doubleArithmetic op (← toDouble a) y
  | .float x, .int b => do doubleArithmetic op x (← toDouble b)
  | .float x, .float y => doubleArithmetic op x y

/-- Repeat a text or list; a count below one leaves nothing. -/
def repeated (v : Value) (count : Int) : Value :=
  let n := count.toNat
  match v with
  | str s => str (String.join (List.replicate n s))
  | markup s => markup (String.join (List.replicate n s))
  | list xs => list (List.replicate n xs).flatten
  | tuple xs => tuple (List.replicate n xs).flatten
  | v => v

def isSequence : Value → Bool
  | str _ | markup _ | list _ | tuple _ => true
  | _ => false

def unsupported (op : ArithmeticOp) (a b : Value) : Fault :=
  .type (.operands op.symbol a.typeName b.typeName)

/-- Addition where not both operands are numbers. -/
def addOther (a b : Value) : Except Fault Value :=
  match a, b with
  | markup s, str _ | markup s, markup _ => .ok (markup (s ++ b.html))
  | str _, markup t => .ok (markup (a.html ++ t))
  | str s, str t => .ok (str (s ++ t))
  | list xs, list ys => .ok (list (xs ++ ys))
  | tuple xs, tuple ys => .ok (tuple (xs ++ ys))
  | str _, _ | markup _, _ => .error (.type (.concatenate "str" b.typeName))
  | list _, _ => .error (.type (.concatenate "list" b.typeName))
  | tuple _, _ => .error (.type (.concatenate "tuple" b.typeName))
  | _, _ => .error (unsupported .add a b)

/-- Multiplication where not both operands are numbers: a sequence and a count. -/
def mulOther (a b : Value) : Except Fault Value :=
  if a.isSequence then
    match b.toInt? with
    | some n => .ok (repeated a n)
    | none => .error (.type (.repetition b.typeName))
  else if b.isSequence then
    match a.toInt? with
    | some n => .ok (repeated b n)
    | none => .error (.type (.repetition a.typeName))
  else .error (unsupported .mul a b)

/-- The remainder operator fills a format when the left operand is a text. -/
def modOther (a b : Value) : Except Fault Value :=
  match a with
  | str s => (Percent.format text shown s b).map str
  | markup s => (Percent.format html (fun v => Text.escaped v.shown) s b).map markup
  | a => .error (unsupported .mod a b)

/-- An arithmetic operation. An absent operand is reported as such, the left one first, except
that a format may be filled with an absent value. -/
def arithmetic (op : ArithmeticOp) (a b : Value) : Except Fault Value :=
  match a, b with
  | absent why, _ => .error (.undefined why)
  | a, absent why => if op = .mod ∧ a.text?.isSome then modOther a b else .error (.undefined why)
  | a, b =>
    match a.numeric?, b.numeric? with
    | some m, some n => numericArithmetic op m n
    | _, _ =>
      match op with
      | .add => addOther a b
      | .mul => mulOther a b
      | .mod => modOther a b
      | op => .error (unsupported op a b)

/-- The sign operators. -/
def signed (negative : Bool) (v : Value) : Except Fault Value :=
  match v with
  | absent why => .error (.undefined why)
  | v =>
    match v.numeric? with
    | some (.int n) => .ok (int (if negative then -n else n))
    | some (.float x) => .ok (float (if negative then x.negate else x))
    | none => .error (.type (.unary (if negative then "-" else "+") v.typeName))

end DeferredViews.Value
