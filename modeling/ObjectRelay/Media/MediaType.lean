/-!
# Media types

`type/subtype; name=value; name="quoted value"`.  Types, subtypes and parameter
names are tokens and compare without case, so they are kept in lower case; a value
is kept as written.  Blanks are allowed after a `;` and behind a quoted value, and
nowhere else.  A quoted value holds at least one character and has no escapes.
-/
namespace ObjectRelay

/-- A media type: its essence `type/subtype` and its parameters, names in lower case. -/
structure MediaType where
  essence : String
  parameters : List (String × String)

namespace MediaType

/-- Characters of a token: letters, digits and the marks that need no quotes. -/
def isToken (c : Char) : Bool :=
  c.isAlphanum || "!#$%&'*+-.^_`|~".toList.contains c

/-- Characters allowed between quotes. -/
def isQuotable (c : Char) : Bool := 0x20 ≤ c.toNat && c.toNat != 0x7F

def lower (s : List Char) : List Char := s.map Char.toLower

/-- The value of a parameter and what follows it up to and including its `;`.
A bare value may be empty only at the very end. -/
def value (s : List Char) : Option (List Char × List Char) :=
  match s with
  | '"' :: quotedRest =>
    match quotedRest with
    | [] => none
    | first :: body =>
      if !isQuotable first then none
      else
        let inner := body.takeWhile fun c => c != '"' && isQuotable c
        match body.drop inner.length with
        | '"' :: rest =>
          match rest.dropWhile (· == ' ') with
          | [] => some (first :: inner, [])
          | ';' :: rest => some (first :: inner, rest)
          | _ => none
        | _ => none
  | _ =>
    let bare := s.takeWhile isToken
    match s.drop bare.length with
    | [] => some (bare, [])
    | ';' :: rest => if bare.isEmpty then none else some (bare, rest)
    | _ => none

/-- The parameters behind the first `;`.  Every parameter takes characters, so the
length of the text bounds their number. -/
def parametersUpTo : Nat → List Char → Option (List (String × String))
  | 0, _ => some []
  | fuel + 1, s =>
    match s.dropWhile (· == ' ') with
    | [] => some []
    | s =>
      let name := s.takeWhile isToken
      match s.drop name.length with
      | '=' :: rest =>
        if name.isEmpty then none
        else do
          let (v, rest) ← value rest
          let others ← parametersUpTo fuel rest
          return (String.ofList (lower name), String.ofList v) :: others
      | _ => none

def parse? (text : String) : Option MediaType :=
  let s := text.toList
  let main := s.takeWhile isToken
  match s.drop main.length with
  | '/' :: rest =>
    let sub := rest.takeWhile isToken
    if main.isEmpty || sub.isEmpty then none
    else
      let essence := String.ofList (lower main ++ '/' :: lower sub)
      match rest.drop sub.length with
      | [] => some ⟨essence, []⟩
      | ';' :: rest => (parametersUpTo (rest.length + 1) rest).map fun ps => ⟨essence, ps⟩
      | _ => none
  | _ => none

def parameter? (m : MediaType) (name : String) : Option String := m.parameters.lookup name

end MediaType

end ObjectRelay
