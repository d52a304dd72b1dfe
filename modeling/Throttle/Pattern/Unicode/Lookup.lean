import Throttle.Pattern.CharClass
import Throttle.Pattern.Unicode.Age
import Throttle.Pattern.Unicode.Break
import Throttle.Pattern.Unicode.Category
import Throttle.Pattern.Unicode.Extension
import Throttle.Pattern.Unicode.Property
import Throttle.Pattern.Unicode.Script
import Throttle.Pattern.Unicode.Word
import Throttle.Text.Blank

/-!
# Classes by name

The classes of the Unicode character database by name. Names are compared without regard to case and separators, and
without a leading `is`.
-/

namespace Throttle.Pattern.Unicode

/-- A name as it is compared. -/
def normalName (name : String) : String :=
  let cs := name.toList
  let (hasIs, body) := match cs with
    | i :: s :: rest => if (i = 'i' ∨ i = 'I') ∧ (s = 's' ∨ s = 'S') then (true, rest) else (false, cs)
    | _ => (false, cs)
  let kept := (body.filter fun c => c.toNat < 0x80 && c != ' ' && c != '_' && c != '-').map Char.toLower
  if hasIs ∧ kept = ['c'] then "isc" else String.ofList kept

def classIn (table : List (List String × List String)) (name : String) : Option CharClass :=
  (table.find? fun row => row.1.contains name).map fun row => readClass row.2

/-- The categories that are made of others. -/
def categoryGroups : List (List String × List String) := [
  (["l", "letter"], ["lu", "ll", "lt", "lm", "lo"]),
  (["lc", "casedletter"], ["lu", "ll", "lt"]),
  (["m", "mark", "combiningmark"], ["mn", "mc", "me"]),
  (["n", "number"], ["nd", "nl", "no"]),
  (["p", "punct", "punctuation"], ["pc", "pd", "ps", "pe", "pi", "pf", "po"]),
  (["s", "symbol"], ["sm", "sc", "sk", "so"]),
  (["z", "separator"], ["zs", "zl", "zp"])]

def joined (names : List String) : CharClass :=
  names.foldl (fun s n => s.union ((classIn categories n).getD .empty)) .empty

/-- Every character with a category. -/
def assigned : CharClass :=
  (CharClass.ofRanges [(0xD800, 0xDFFF)]).union (joined (categories.filterMap fun row => row.1.head?))

def category? (name : String) : Option CharClass :=
  if name = "any" then some .all
  else if name = "ascii" then some ⟨[(0, 0x7F)]⟩
  else if name = "assigned" then some assigned
  else if name = "cn" ∨ name = "unassigned" then some assigned.complement
  else if name = "c" ∨ name = "other" then
    some (((joined ["cc", "cf", "co"]).union ⟨[(0xD800, 0xDFFF)]⟩).union assigned.complement)
  else match categoryGroups.find? fun row => row.1.contains name with
    | some row => some (joined row.2)
    | none => classIn categories name

def script? (name : String) : Option CharClass := classIn scripts name

/-- A script with the characters that are used in it besides its own. Those no longer count as common. -/
def extendedScript? (name : String) : Option CharClass := do
  let own ← script? name
  if ["common", "zyyy", "inherited", "qaai", "zinh"].contains name then
    return own.diff (.ofRanges (scriptExtensions.flatMap fun row => (readClass row.2).ranges))
  else return own.union ((classIn scriptExtensions name).getD .empty)

/-- Every character of a version and those before it. -/
def age? (name : String) : Option CharClass := do
  let i ← ages.findIdx? fun row => row.1.contains name
  return .ofRanges ((ages.take (i + 1)).flatMap fun row => (readClass row.2).ranges)

/-- The class of one name: a property, a category or a script. A few names are taken for categories first. -/
def class? (name : String) : Option CharClass :=
  let name := normalName name
  let property := if ["cf", "sc", "lc"].contains name then none else classIn properties name
  property <|> category? name <|> script? name

/-- The class of one value of a property. -/
def valueClass? (property value : String) : Option CharClass :=
  let value := normalName value
  match normalName property with
  | "gc" | "generalcategory" => category? value
  | "sc" | "script" => script? value
  | "scx" | "scriptextensions" => extendedScript? value
  | "age" => age? value
  | "gcb" | "graphemeclusterbreak" => classIn graphemeBreaks value
  | "wb" | "wordbreak" => classIn wordBreaks value
  | "sb" | "sentencebreak" => classIn sentenceBreaks value
  | _ => none

def wordClass : CharClass := readClass wordRanges

def digitClass : CharClass := (classIn categories "nd").getD .empty

def blankClass : CharClass :=
  ⟨[(0x9, 0xD), (0x20, 0x20), (0x85, 0x85), (0xA0, 0xA0), (0x1680, 0x1680), (0x2000, 0x200A), (0x2028, 0x2029),
    (0x202F, 0x202F), (0x205F, 0x205F), (0x3000, 0x3000)]⟩

/-- Whether a character is a word character. -/
def isWord (c : Char) : Bool :=
  if c.toNat < 0x80 then c.isAlphanum || c = '_' else wordClass.contains c.toNat

def isAlphabetic (c : Char) : Bool :=
  if c.toNat < 0x80 then c.isAlpha else ((classIn properties "alphabetic").getD .empty).contains c.toNat

def isAlphanumeric (c : Char) : Bool :=
  isAlphabetic c || (joined ["nd", "nl", "no"]).contains c.toNat

end Throttle.Pattern.Unicode
