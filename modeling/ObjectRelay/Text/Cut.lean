/-!
# Cutting text at separators

Sources, URIs and settings are taken apart at the **first** occurrence of a
separator; what follows it is kept as it is, further separators included.
-/
namespace ObjectRelay

/-- `s` cut at the first occurrence of the non-empty `sep`: what stands before it
and what stands after it, or `none` when `sep` does not occur. -/
def cutAt (sep : List Char) : List Char → Option (List Char × List Char)
  | [] => none
  | c :: rest =>
    if sep.isPrefixOf (c :: rest) then some ([], (c :: rest).drop sep.length)
    else (cutAt sep rest).map fun (before, after) => (c :: before, after)

/-- The pieces between the occurrences of `sep`; `n` separators give `n + 1` pieces. -/
def piecesBy {α : Type} [BEq α] (sep : α) : List α → List (List α)
  | [] => [[]]
  | c :: rest =>
    if c == sep then [] :: piecesBy sep rest
    else match piecesBy sep rest with
      | [] => [[c]]
      | piece :: pieces => (c :: piece) :: pieces

end ObjectRelay
