import ObjectRelay.Unicode.Property
/-!
# Which characters a message shows as themselves

Messages quote text that may come from anywhere, so they spell out every character
that would not show: controls, format characters, code points that stand for nothing,
separators other than the space, and marks that would change the quote before them.
-/
namespace ObjectRelay.Unicode

/-- What can be seen on its own or upon another character. -/
def visible : CharSet := .unions [letter, mark, number, punctuation, symbol]

def isPlain (c : Char) : Bool :=
  if c.toNat < 0x7F then 0x20 ≤ c.toNat
  else visible.has c && !graphemeExtend.has c

end ObjectRelay.Unicode
