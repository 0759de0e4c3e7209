import SeriesGateway.Regex.CharSet
import SeriesGateway.Regex.Unicode.CaseFold
import SeriesGateway.Regex.Unicode.Category
import SeriesGateway.Regex.Unicode.Property
import SeriesGateway.Regex.Unicode.Script
import SeriesGateway.Text.Fields
import SeriesGateway.Text.Hex

/-! # Unicode character classes

Reads the tables of the Unicode standard, derives the properties that are
defined from other ones, and resolves the names by which a regular expression
refers to them.
-/

namespace SeriesGateway.Regex.Unicode

/-- The number that hexadecimal digits denote; other characters are skipped. -/
def hexNumber (digits : List Char) : Nat :=
  (digits.filterMap Text.hexValue?).foldl (fun n d => 16 * n + d) 0

/-- The entries of a table, which are separated by blanks and line ends. -/
def entries (table : String) : List (List Char) :=
  ((Text.fields '\n' table.toList).flatMap (Text.fields ' ')).filter fun entry => !entry.isEmpty

/-- Reads ranges such as `41-5a 61-7a aa`. -/
def readRanges (text : String) : CharSet :=
  .ofRanges <| (entries text).map fun field =>
    match Text.cut? '-' field with
    | some (first, last) => (hexNumber first, hexNumber last)
    | none => (hexNumber field, hexNumber field)

/-- Code points in any of the categories with the given short names. -/
def inCategories (names : List String) : CharSet :=
  .ofRanges <| (categories.filter fun entry => names.contains entry.1).flatMap fun entry =>
    (readRanges entry.2.2).ranges

/-- Short names of the categories of a group, with the names of the group. -/
def categoryGroups : List (List String × List String) := [
  (["l", "letter"], ["lu", "ll", "lt", "lm", "lo"]),
  (["lc", "casedletter"], ["lu", "ll", "lt"]),
  (["m", "mark", "combiningmark"], ["mn", "mc", "me"]),
  (["n", "number"], ["nd", "nl", "no"]),
  (["p", "punctuation", "punct"], ["pc", "pd", "ps", "pe", "pi", "pf", "po"]),
  (["s", "symbol"], ["sm", "sc", "sk", "so"]),
  (["z", "separator"], ["zs", "zl", "zp"])]

def letterCategories : List String := ["lu", "ll", "lt", "lm", "lo"]

/-- Code points without a category of their own: surrogates aside, everything
that no table lists. -/
def unassigned : CharSet :=
  ((inCategories (categories.map (·.1))).union (readRanges surrogates)).complement

/-- Resolves the name of a general category or of a group of them. -/
def category? (name : String) : Option CharSet :=
  if name == "any" then some .all
  else if name == "ascii" then some ⟨[(0, 0x7f)]⟩
  else if name == "assigned" then some unassigned.complement
  else if name == "cn" || name == "unassigned" then some unassigned
  else if name == "cs" || name == "surrogate" then some .empty
  else if name == "c" || name == "other" then
    some ((inCategories ["cc", "cf", "co"]).union unassigned)
  else
    let aliases := [("cntrl", "cc"), ("digit", "nd")]
    let short := (aliases.lookup name).getD name
    match categoryGroups.find? fun group => group.1.contains name with
    | some group => some (inCategories group.2)
    | none =>
      (categories.find? fun entry => entry.1 == short || entry.2.1 == short).map fun entry =>
        readRanges entry.2.2

/-- Names of scripts besides the two in the table. -/
def scriptAliases : List (String × String) := [("qaac", "copt"), ("qaai", "zinh")]

/-- Resolves the name of a script. -/
def script? (name : String) : Option CharSet :=
  let short := (scriptAliases.lookup name).getD name
  (scripts.find? fun entry => entry.1 == short || entry.2.1 == short).map fun entry =>
    readRanges entry.2.2

/-- A property from the table, by one of its names. -/
def listed? (name : String) : Option CharSet :=
  (properties.find? fun entry => entry.1.contains name).map fun entry => readRanges entry.2

def lowercase : CharSet := (inCategories ["ll"]).union (readRanges otherLowercase)

def uppercase : CharSet := (inCategories ["lu"]).union (readRanges otherUppercase)

def alphabetic : CharSet :=
  (inCategories (letterCategories ++ ["nl"])).union (readRanges otherAlphabetic)

def patternReserved : CharSet :=
  ((listed? "patsyn").getD .empty).union ((listed? "patws").getD .empty)

def idStart : CharSet :=
  ((inCategories (letterCategories ++ ["nl"])).union (readRanges otherIdStart)).diff
    patternReserved

def idContinue : CharSet :=
  ((inCategories (letterCategories ++ ["nl", "mn", "mc", "nd", "pc"])).union
    (readRanges otherIdContinue)).diff patternReserved

/-- Code points whose compatibility forms may not start or continue a name. -/
def notXidContinue : CharSet :=
  readRanges "37a 309b-309c fc5e-fc63 fdfa-fdfb fe70 fe72 fe74 fe76 fe78 fe7a fe7c fe7e"

def notXidStart : CharSet :=
  notXidContinue.union (readRanges "e33 eb3 ff9e-ff9f")

def graphemeExtend : CharSet :=
  (inCategories ["mn", "me"]).union (readRanges otherGraphemeExtend)

def graphemeBase : CharSet :=
  ((inCategories ["cc", "cf", "co", "zl", "zp"]).union
    ((readRanges surrogates).union (unassigned.union graphemeExtend))).complement

/-- A property derived from the general categories, by one of its names. -/
def derived? (name : String) : Option CharSet :=
  if ["alpha", "alphabetic"].contains name then some alphabetic
  else if ["lower", "lowercase"].contains name then some lowercase
  else if ["upper", "uppercase"].contains name then some uppercase
  else if ["cased"].contains name then
    some ((inCategories ["lu", "ll", "lt"]).union (readRanges otherCased))
  else if ["math"].contains name then
    some ((inCategories ["sm"]).union (readRanges otherMath))
  else if ["ids", "idstart"].contains name then some idStart
  else if ["idc", "idcontinue"].contains name then some idContinue
  else if ["xids", "xidstart"].contains name then some (idStart.diff notXidStart)
  else if ["xidc", "xidcontinue"].contains name then some (idContinue.diff notXidContinue)
  else if ["grext", "graphemeextend"].contains name then some graphemeExtend
  else if ["grbase", "graphemebase"].contains name then some graphemeBase
  else none

/-- Letters, marks, decimal digits, connectors and joiners. -/
def word : CharSet :=
  (alphabetic.union (inCategories ["mn", "mc", "me", "nd", "pc"])).union
    ((listed? "joinc").getD .empty)

def digit : CharSet := inCategories ["nd"]

def space : CharSet := (listed? "wspace").getD .empty

/-- Letters and all numbers. -/
def alphanumeric : CharSet := alphabetic.union (inCategories ["nd", "nl", "no"])

/-- Names are compared without case, blanks, hyphens, underscores and a leading
`is`; characters beyond ASCII are dropped. -/
def normalizeName (name : List Char) : String :=
  let lower (c : Char) : Char :=
    if 65 ≤ c.toNat ∧ c.toNat ≤ 90 then Char.ofNat (c.toNat + 32) else c
  let kept (cs : List Char) : List Char :=
    (cs.filter fun c => c.toNat < 128 && c != ' ' && c != '_' && c != '-').map lower
  match name with
  | a :: b :: rest =>
    if lower a = 'i' ∧ lower b = 's' then
      let short := String.ofList (kept rest)
      if short == "c" then "isc" else short
    else String.ofList (kept name)
  | _ => String.ofList (kept name)

/-- Resolves a name on its own: a property, a general category or a script, in
this order. -/
def class? (name : List Char) : Option CharSet :=
  let name := normalizeName name
  ((listed? name).or (derived? name)).or ((category? name).or (script? name))

/-- Resolves a property with a value. -/
def classWithValue? (property value : List Char) : Option CharSet :=
  let property := normalizeName property
  let value := normalizeName value
  if ["gc", "generalcategory"].contains property then category? value
  else if ["sc", "script"].contains property then script? value
  else none

/-- Reads one entry of the case folding table into pairs of a code point and
what it folds to. -/
def readFolding (entry : List Char) : List (Nat × Nat) :=
  let (codes, upwards, distance) :=
    match Text.cut? '>' entry, Text.cut? '<' entry with
    | some (codes, distance), _ => (codes, true, hexNumber distance)
    | _, some (codes, distance) => (codes, false, hexNumber distance)
    | none, none => (entry, true, 0)
  let (first, last, stride) :=
    match Text.cut? '-' codes, Text.cut? '/' codes with
    | some (a, b), _ => (hexNumber a, hexNumber b, 1)
    | _, some (a, b) => (hexNumber a, hexNumber b, 2)
    | none, none => (hexNumber codes, hexNumber codes, 1)
  (List.range ((last - first) / stride + 1)).map fun i =>
    let code := first + stride * i
    (code, if upwards then code + distance else code - distance)

/-- Every code point that folds to another one, with its folding, ordered by
the folding. -/
def foldings : List (Nat × Nat) :=
  ((entries caseFolding).flatMap readFolding).mergeSort fun a b => a.2 ≤ b.2

/-- Classes of code points with one folding, the folding first. -/
def foldClasses : List (List Nat) :=
  (foldings.splitBy fun a b => a.2 == b.2).map fun run =>
    match run with
    | [] => []
    | pair :: _ => pair.2 :: run.map (·.1)

/-- The set with every code point that folds to the same one as a member. -/
def closeUnderFolding (s : CharSet) : CharSet :=
  .ofRanges <| s.ranges ++ (foldClasses.filter fun members => members.any s.containsCode).flatMap
    fun members => members.map fun code => (code, code)

end SeriesGateway.Regex.Unicode
