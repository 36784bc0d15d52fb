import ObjectRelay.Object.Glob
import ObjectRelay.Pattern.Template
import ObjectRelay.Text.Quoted
/-!
# Which objects are relayed

A filter pairs every bucket glob with every key glob.  A pair, written `bucket/key`, is
compiled as one pattern that has to match the whole source of an object; the object
passes when one of the pairs does.  Since the pair is one pattern, a run in the bucket
part may reach over the slash.
-/
namespace ObjectRelay

/-! ## Globs as patterns -/

/-- The characters written so that a pattern takes them for themselves. -/
def Pattern.escape (s : List Char) : List Char :=
  s.flatMap fun c => if Pattern.Read.isMeta c then ['\\', c] else [c]

/-- What a part of a glob is written as in a pattern. -/
def Glob.Part.written : Part → List Char
  | run => ['.', '*']
  | one => ['.']
  | char c => Pattern.escape [c]

/-- The pattern that a glob stands for: it begins and ends where the text does, and a dot
is any character, line ends included. -/
def Glob.written (g : Glob) : List Char :=
  ['(', '?', 's', ')', '^'] ++ g.flatMap Part.written ++ ['$']

/-! ## Filters -/

inductive FilterError where
  /-- What the glob is written as is no pattern. -/
  | pattern (glob : String)
deriving DecidableEq, Repr

def FilterError.message : FilterError → String
  | pattern glob => "failed to compile pattern " ++ quoted glob

structure ObjectFilter where
  patterns : List Pattern

namespace ObjectFilter

def compile (glob : String) : Except FilterError Pattern :=
  match Pattern.ofString? (String.ofList (Glob.ofString glob).written) with
  | some p => .ok p
  | none => .error (.pattern glob)

/-- The filter of all pairs of a bucket glob and a key glob. -/
def ofGlobs (buckets keys : List String) : Except FilterError ObjectFilter := do
  let globs := buckets.flatMap fun bucket => keys.map fun key => bucket ++ "/" ++ key
  return { patterns := ← globs.mapM compile }

/-- Whether an object passes; without patterns none does. -/
def allows (filter : ObjectFilter) (source : String) : Bool :=
  filter.patterns.any fun p => p.accepts source

def isEmpty (filter : ObjectFilter) : Bool := filter.patterns.isEmpty

end ObjectFilter

end ObjectRelay
