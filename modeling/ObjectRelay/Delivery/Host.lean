import ObjectRelay.Text.Cut
import ObjectRelay.Text.Percent
import ObjectRelay.Unicode.Printable
/-!
# Hosts in web addresses

The host of a web address is a name, four bytes in dots, or eight groups in brackets.
A name whose last label is a number is taken for the bytes in dots, so a wrong one is
refused and never looked up as a name.
-/
namespace ObjectRelay

inductive HostFault where
  | empty
  /-- Not a name. -/
  | name
  /-- Not four bytes in dots. -/
  | bytes
  /-- Not eight groups in brackets. -/
  | groups
  | character
deriving DecidableEq, Repr

def HostFault.message : HostFault → String
  | empty => "empty host"
  | name => "invalid international domain name"
  | bytes => "invalid IPv4 address"
  | groups => "invalid IPv6 address"
  | character => "invalid domain character"

namespace Host

/-! ## Groups in brackets -/

/-- One to four hexadecimal digits. -/
def isGroup (s : List Char) : Bool :=
  1 ≤ s.length && s.length ≤ 4 && s.all fun c => (Ranges.hexDigit? c).isSome

/-- A decimal number up to 255 without leading zeros. -/
def isByte (s : List Char) : Bool :=
  1 ≤ s.length && s.length ≤ 3 && s.all Char.isDigit && (s.length == 1 || s.head? != some '0') &&
    (String.ofList s).toNat?.any (· ≤ 255)

def isDotted (s : List Char) : Bool :=
  let parts := piecesBy '.' s
  parts.length == 4 && parts.all isByte

/-- How many groups are written between colons; the last part may be in dots, and counts
as two, if `dotted` is set. -/
def groupCount? (dotted : Bool) : List (List Char) → Option Nat
  | [] => some 0
  | [last] =>
    if isGroup last then some 1 else if dotted && isDotted last then some 2 else none
  | part :: rest => if isGroup part then (groupCount? dotted rest).map (· + 1) else none

/-- The parts of a text between its colons, none for no text. -/
def groupParts (s : List Char) : List (List Char) := if s.isEmpty then [] else piecesBy ':' s

/-- Eight groups between colons; one pair of colons may stand for one or more of them. -/
def isGroups (s : List Char) : Bool :=
  match cutAt [':', ':'] s with
  | none => groupCount? true (groupParts s) == some 8
  | some (before, after) =>
    match groupCount? false (groupParts before), groupCount? true (groupParts after) with
    | some n, some m => n + m ≤ 7
    | _, _ => false

/-! ## Bytes in dots -/

/-- The value of digits of a base, `none` if a character is no such digit. -/
def digitsValue? (base : Nat) (s : List Char) : Option Nat :=
  s.foldl (fun n? c => do
    let n ← n?
    let d ← Ranges.hexDigit? c
    if d < base then some (base * n + d) else none) (some 0)

/-- A number in decimal, in octal behind a zero, or in hexadecimal behind `0x`. -/
def number? : List Char → Option Nat
  | [] => none
  | '0' :: 'x' :: digits | '0' :: 'X' :: digits => digitsValue? 16 digits
  | '0' :: d :: digits => digitsValue? 8 (d :: digits)
  | digits => digitsValue? 10 digits

/-- The labels of a name; a dot at its end adds none. -/
def labels (name : List Char) : List (List Char) :=
  let parts := piecesBy '.' name
  if 1 < parts.length && parts.getLast? == some [] then parts.dropLast else parts

def endsInNumber (name : List Char) : Bool :=
  match (labels name).getLast? with
  | none => false
  | some last => (!last.isEmpty && last.all Char.isDigit) || (number? last).isSome

/-- Whether numbers fit four bytes: all but the last one byte each, the last one the rest. -/
def fitBytes (numbers : List Nat) : Bool :=
  match numbers.reverse with
  | [] => false
  | last :: others =>
    others.length ≤ 3 && others.all (· ≤ 255) && last < 1 <<< (8 * (4 - others.length))

/-- Whether a name that ends in a number is four bytes in dots. -/
def isBytes (name : List Char) : Bool :=
  match (labels name).mapM number? with
  | none => false
  | some numbers => fitBytes numbers

/-! ## Names -/

/-- The ASCII characters, besides controls and the space, that no name holds. -/
def forbidden : List Char :=
  ['%', '#', '/', ':', '<', '>', '?', '@', '[', '\\', ']', '^', '|']

/-- Characters that names are read without. -/
def isIgnored (c : Char) : Bool :=
  c == '\u00ad' || c == '\u200b' || c == '\u2060' || c == '\u2064' || c == '\ufeff'

/-- The character that a name is read with: wide forms count as the plain ones. -/
def nameChar (c : Char) : Char :=
  if '\uff01' ≤ c && c ≤ '\uff5e' then Char.ofNat (c.toNat - 0xFEE0)
  else if c == '\u3002' || c == '\uff61' then '.'
  else c

def isNameChar (c : Char) : Bool :=
  if c.toNat < 0x80 then 0x20 < c.toNat && c.toNat < 0x7F && !forbidden.contains c
  else Unicode.visible.has c && c != '\ufffd'

/-- Whether a label begins with a character and not with a mark upon one. -/
def isLabel (label : List Char) : Bool :=
  label.all isNameChar && label.head?.all fun c => c.toNat < 0x80 || !Unicode.mark.has c

/-- Checks a host that is not in brackets and may be a name in any script. -/
def checkName (written : List Char) : Except HostFault Unit :=
  match Utf8.decode? (Percent.decode (Utf8.encodeChars written)) with
  | none => .error .name
  | some text =>
    let name := (text.toList.filter fun c => !isIgnored c).map nameChar
    if !(piecesBy '.' name).all isLabel then .error .name
    else if name.isEmpty then .error .empty
    else if endsInNumber name && !isBytes name then .error .bytes
    else .ok ()

def checkBrackets (inner : List Char) : Except HostFault Unit :=
  match inner.getLast? with
  | some ']' => if isGroups inner.dropLast then .ok () else .error .groups
  | _ => .error .groups

/-- Checks the host of an address that is looked up by name. -/
def check : List Char → Except HostFault Unit
  | '[' :: inner => checkBrackets inner
  | written => checkName written

/-- Checks the host of any other address: it is not looked into. -/
def checkOpaque : List Char → Except HostFault Unit
  | '[' :: inner => checkBrackets inner
  | written =>
    if written.any fun c => c == '\x00' || c == ' ' || (forbidden.contains c && c != '%') then
      .error .character
    else .ok ()

end Host

end ObjectRelay
