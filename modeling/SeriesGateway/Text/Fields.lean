/-! # Separated text

Cutting a text at every occurrence of one character and at its first one, removing the
blanks at both ends of a text, and reversing the nodes of a metric path.
-/

namespace SeriesGateway.Text

/-! ## Fields -/

/-- The fields between the occurrences of `sep`; there is one more of them than
there are occurrences, and a text without `sep` is its own only field. -/
def fields (sep : Char) : List Char → List (List Char)
  | [] => [[]]
  | c :: rest =>
    if c = sep then [] :: fields sep rest
    else
      match fields sep rest with
      | [] => [[c]]
      | field :: more => (c :: field) :: more

/-- Writes fields with `sep` between neighbours. -/
def join (sep : Char) : List (List Char) → List Char
  | [] => []
  | [field] => field
  | field :: more => field ++ sep :: join sep more

/-- The parts before and after the first `sep`, or nothing if there is none. -/
def cut? (sep : Char) : List Char → Option (List Char × List Char)
  | [] => none
  | c :: rest =>
    if c = sep then some ([], rest)
    else (cut? sep rest).map fun (before, after) => (c :: before, after)

/-! ## Blanks -/

/-- Membership in the Unicode property `White_Space`. -/
def isBlank (c : Char) : Bool :=
  let n := c.toNat
  (0x09 ≤ n && n ≤ 0x0d) || n == 0x20 || n == 0x85 || n == 0xa0 || n == 0x1680 ||
    (0x2000 ≤ n && n ≤ 0x200a) || n == 0x2028 || n == 0x2029 || n == 0x202f ||
    n == 0x205f || n == 0x3000

/-- Drops the blanks at both ends. -/
def trim (text : List Char) : List Char :=
  ((text.dropWhile isBlank).reverse.dropWhile isBlank).reverse

end SeriesGateway.Text

/-! ## Metric paths

A metric path is a sequence of nodes separated by dots, optionally followed by
tags that start at the first question mark. Some tables store paths with their
nodes reversed.
-/

namespace SeriesGateway.Path

/-- Reverses the nodes of a path. The tags stay where they are. -/
def reverseNodes (path : List Char) : List Char :=
  Text.join '.' (Text.fields '.' (path.takeWhile (· != '?'))).reverse ++
    path.dropWhile (· != '?')

/-- `reverseNodes` on text. -/
def reverse (path : String) : String := String.ofList (reverseNodes path.toList)

end SeriesGateway.Path
