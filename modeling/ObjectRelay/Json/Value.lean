import ObjectRelay.Number.Shortest
import ObjectRelay.Text.Utf8
/-!
# JSON values and their text

A value is written without blanks.  Only the double quote, the backslash and the
controls are escaped in strings, so a written value never holds a line end.  A
float always shows that it is one: it has a fraction or an exponent.
-/
namespace ObjectRelay

/-- A JSON number: an integer of 64 bits, signed or not, or a finite float. -/
inductive Json.Number where
  | int (value : Int)
  | float (value : Binary64)
deriving DecidableEq, Repr

/-- A JSON value.  What is read from text has its members in increasing order of
their names, each name once. -/
inductive Json where
  | null
  | bool (value : Bool)
  | number (value : Json.Number)
  | string (value : String)
  | array (items : List Json)
  | object (members : List (String × Json))

namespace Json

/-- The members with `name` set to `value`, in increasing order of the names. -/
def insert (name : String) (value : Json) : List (String × Json) → List (String × Json)
  | [] => [(name, value)]
  | (other, v) :: rest =>
    if name == other then (name, value) :: rest
    else if name < other then (name, value) :: (other, v) :: rest
    else (other, v) :: insert name value rest

/-- The object with these members; of two with one name the later one counts. -/
def objectOf (members : List (String × Json)) : Json :=
  object (members.foldl (fun done (name, value) => insert name value done) [])

def member? (name : String) : Json → Option Json
  | object members => members.lookup name
  | _ => none

/-! ## Text -/

def escapeChar (c : Char) : List Char :=
  if c == '"' then ['\\', '"']
  else if c == '\\' then ['\\', '\\']
  else if 0x20 ≤ c.toNat then [c]
  else if c == '\n' then ['\\', 'n']
  else if c == '\t' then ['\\', 't']
  else if c == '\r' then ['\\', 'r']
  else if c.toNat == 8 then ['\\', 'b']
  else if c.toNat == 12 then ['\\', 'f']
  else ['\\', 'u', '0', '0', Nat.digitChar (c.toNat / 16), Nat.digitChar (c.toNat % 16)]

def stringChars (s : String) : List Char := '"' :: s.toList.flatMap escapeChar ++ ['"']

def intChars (i : Int) : List Char :=
  if i < 0 then '-' :: Nat.toDigits 10 i.natAbs else Nat.toDigits 10 i.natAbs

/-- A float: plain notation when the first digit stands for `10 ^ -5` up to
`10 ^ 15`, else one digit before the point and an exponent with its sign. -/
def floatChars (x : Binary64) : List Char :=
  let body :=
    if x.mantissa == 0 then ['0', '.', '0']
    else
      let d := Decimal.shortest x
      let digits := Nat.toDigits 10 d.digits
      let e := d.exponent + (digits.length - 1 : Nat)
      if 0 ≤ e && e < 16 then
        let whole := e.toNat + 1
        if digits.length ≤ whole then
          digits ++ List.replicate (whole - digits.length) '0' ++ ['.', '0']
        else digits.take whole ++ '.' :: digits.drop whole
      else if -5 ≤ e && e < 0 then
        ['0', '.'] ++ List.replicate (e.natAbs - 1) '0' ++ digits
      else
        let fraction := match digits.drop 1 with
          | [] => []
          | rest => '.' :: rest
        digits.take 1 ++ fraction ++ ['e', if e < 0 then '-' else '+'] ++ Nat.toDigits 10 e.natAbs
  if x.negative then '-' :: body else body

def numberChars : Json.Number → List Char
  | .int i => intChars i
  | .float x => floatChars x

mutual

def chars : Json → List Char
  | null => ['n', 'u', 'l', 'l']
  | bool true => ['t', 'r', 'u', 'e']
  | bool false => ['f', 'a', 'l', 's', 'e']
  | number n => numberChars n
  | string s => stringChars s
  | array items => '[' :: itemsChars items ++ [']']
  | object members => '{' :: membersChars members ++ ['}']

def itemsChars : List Json → List Char
  | [] => []
  | [item] => chars item
  | item :: rest => chars item ++ ',' :: itemsChars rest

def membersChars : List (String × Json) → List Char
  | [] => []
  | [(name, value)] => stringChars name ++ ':' :: chars value
  | (name, value) :: rest => stringChars name ++ ':' :: (chars value ++ ',' :: membersChars rest)

end

def text (v : Json) : String := String.ofList (chars v)

def bytes (v : Json) : List UInt8 := Utf8.encodeChars (chars v)

end Json

end ObjectRelay
