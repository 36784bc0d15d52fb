/-!
# White space around a setting

Values that people write by hand (header values, settings, rule entries) are
compared after the white space at both ends is removed.  White space is the
Unicode property `White_Space`, not just the ASCII blanks: a no-break space
pasted around `gzip` is dropped too.
-/
namespace ObjectRelay

/-- The Unicode property `White_Space`. -/
def isBlank (c : Char) : Bool :=
  let n := c.toNat
  (0x9 ≤ n && n ≤ 0xD) || n == 0x20 || n == 0x85 || n == 0xA0 || n == 0x1680 ||
    (0x2000 ≤ n && n ≤ 0x200A) || n == 0x2028 || n == 0x2029 || n == 0x202F || n == 0x205F ||
    n == 0x3000

/-- Drops the longest suffix whose characters all satisfy `p`. -/
def dropWhileEnd (p : Char → Bool) (s : List Char) : List Char :=
  (s.reverse.dropWhile p).reverse

/-- Drops the longest prefix and the longest suffix whose characters all satisfy `p`. -/
def trimBy (p : Char → Bool) (s : List Char) : List Char :=
  dropWhileEnd p (s.dropWhile p)

/-- The text without the white space at its ends. -/
def trimBlank (s : String) : String :=
  String.ofList (trimBy isBlank s.toList)

end ObjectRelay
