import Scaffold.Text.Blank
import Scaffold.Text.CaseMap
import Scaffold.Text.CaseOrbit
import Scaffold.Text.Category
import Scaffold.Text.Numeric

namespace Scaffold
namespace Pattern

/-!
# Sets of characters

The sets that patterns are built from: ranges, the properties of Unicode, the classes of ASCII, and
the combinations of these.
-/

inductive CharSet where
  | nothing
  | range (lo hi : Char)
  | property (p : Char → Bool)
  | union (a b : CharSet)
  | intersection (a b : CharSet)
  | difference (a b : CharSet)
  | symmetricDifference (a b : CharSet)
  | complement (a : CharSet)
  /-- The set with everything that differs from a member in case only. -/
  | folded (a : CharSet)

namespace CharSet

/-- Whether `c` is in the set. -/
def member : CharSet → Char → Bool
  | nothing, _ => false
  | range lo hi, c => lo ≤ c && c ≤ hi
  | property p, c => p c
  | union a b, c => a.member c || b.member c
  | intersection a b, c => a.member c && b.member c
  | difference a b, c => a.member c && !b.member c
  | symmetricDifference a b, c => a.member c != b.member c
  | complement a, c => !a.member c
  | folded a, c => (Text.caseOrbit c).any a.member

/-- The set of one character. -/
def singleton (c : Char) : CharSet :=
  range c c

/-- The set of the characters in one of the given intervals. -/
def ranges : List (Char × Char) → CharSet
  | [] => nothing
  | (lo, hi) :: rest => union (range lo hi) (ranges rest)

/-- The code points of a table. -/
def table (t : List Text.Stride) : CharSet :=
  property (fun c => Text.Stride.covers t c.toNat)

/-- The code points of any of the tables. -/
def tables (ts : List (List Text.Stride)) : CharSet :=
  property (fun c => ts.any (fun t => Text.Stride.covers t c.toNat))

/-- The characters of words: letters, marks, decimal digits, connectors and joiners. -/
def isWordChar (c : Char) : Bool :=
  if c.toNat < 128 then c.isAlphanum || c == '_'
  else
    Text.isAlphabetic c || Text.isDecimalDigit c || c.toNat == 0x200C || c.toNat == 0x200D
      || [Text.categoryMn, Text.categoryMc, Text.categoryMe, Text.categoryPc].any
        (fun t => Text.Stride.covers t c.toNat)

/-! ## Classes of ASCII -/

/-- The named classes of ASCII characters. -/
def asciiClasses : List (String × CharSet) := [
  ("alnum", ranges [('0', '9'), ('A', 'Z'), ('a', 'z')]),
  ("alpha", ranges [('A', 'Z'), ('a', 'z')]),
  ("ascii", range '\x00' '\x7f'),
  ("blank", ranges [('\t', '\t'), (' ', ' ')]),
  ("cntrl", ranges [('\x00', '\x1f'), ('\x7f', '\x7f')]),
  ("digit", range '0' '9'),
  ("graph", range '!' '~'),
  ("lower", range 'a' 'z'),
  ("print", range ' ' '~'),
  ("punct", ranges [('!', '/'), (':', '@'), ('[', '\x60'), ('\x7b', '~')]),
  ("space", ranges [('\t', '\r'), (' ', ' ')]),
  ("upper", range 'A' 'Z'),
  ("word", ranges [('0', '9'), ('A', 'Z'), ('_', '_'), ('a', 'z')]),
  ("xdigit", ranges [('0', '9'), ('A', 'F'), ('a', 'f')])]

/-! ## Properties of Unicode -/

/-- The tables of a general category or of a group of them, under its names without separators. -/
def categories : List (List String × List (List Text.Stride)) := [
  (["lu", "uppercaseletter"], [Text.categoryLu]),
  (["ll", "lowercaseletter"], [Text.categoryLl]),
  (["lt", "titlecaseletter"], [Text.categoryLt]),
  (["lm", "modifierletter"], [Text.categoryLm]),
  (["lo", "otherletter"], [Text.categoryLo]),
  (["lc", "casedletter"], [Text.categoryLu, Text.categoryLl, Text.categoryLt]),
  (["l", "letter"], [Text.categoryLu, Text.categoryLl, Text.categoryLt, Text.categoryLm, Text.categoryLo]),
  (["mn", "nonspacingmark"], [Text.categoryMn]),
  (["mc", "spacingmark"], [Text.categoryMc]),
  (["me", "enclosingmark"], [Text.categoryMe]),
  (["m", "mark", "combiningmark"], [Text.categoryMn, Text.categoryMc, Text.categoryMe]),
  (["nd", "decimalnumber", "digit"], [Text.categoryNd]),
  (["nl", "letternumber"], [Text.categoryNl]),
  (["no", "othernumber"], [Text.categoryNo]),
  (["n", "number"], [Text.categoryNd, Text.categoryNl, Text.categoryNo]),
  (["pc", "connectorpunctuation"], [Text.categoryPc]),
  (["pd", "dashpunctuation"], [Text.categoryPd]),
  (["ps", "openpunctuation"], [Text.categoryPs]),
  (["pe", "closepunctuation"], [Text.categoryPe]),
  (["pi", "initialpunctuation"], [Text.categoryPi]),
  (["pf", "finalpunctuation"], [Text.categoryPf]),
  (["po", "otherpunctuation"], [Text.categoryPo]),
  (["p", "punctuation", "punct"], [Text.categoryPc, Text.categoryPd, Text.categoryPs, Text.categoryPe,
    Text.categoryPi, Text.categoryPf, Text.categoryPo]),
  (["sm", "mathsymbol"], [Text.categorySm]),
  (["sc", "currencysymbol"], [Text.categorySc]),
  (["sk", "modifiersymbol"], [Text.categorySk]),
  (["so", "othersymbol"], [Text.categorySo]),
  (["s", "symbol"], [Text.categorySm, Text.categorySc, Text.categorySk, Text.categorySo]),
  (["zs", "spaceseparator"], [Text.categoryZs]),
  (["zl", "lineseparator"], [Text.categoryZl]),
  (["zp", "paragraphseparator"], [Text.categoryZp]),
  (["z", "separator"], [Text.categoryZs, Text.categoryZl, Text.categoryZp]),
  (["cc", "control", "cntrl"], [Text.categoryCc]),
  (["cf", "format"], [Text.categoryCf]),
  (["co", "privateuse"], [Text.categoryCo])]

/-- The tables of all assigned characters outside the group of controls. -/
def assignedTables : List (List Text.Stride) :=
  (categories.filter (fun entry => ["l", "m", "n", "p", "s", "z"].contains (entry.1.headD ""))).flatMap Prod.snd

/-- The scripts, under their names without separators. -/
def scripts : List (List String × List Text.Stride) := [
  (["latin", "latn"], Text.scriptLatin), (["greek", "grek"], Text.scriptGreek),
  (["cyrillic", "cyrl"], Text.scriptCyrillic), (["han", "hani"], Text.scriptHan),
  (["hiragana", "hira"], Text.scriptHiragana), (["katakana", "kana"], Text.scriptKatakana),
  (["hangul", "hang"], Text.scriptHangul), (["arabic", "arab"], Text.scriptArabic),
  (["hebrew", "hebr"], Text.scriptHebrew), (["armenian", "armn"], Text.scriptArmenian),
  (["thai"], Text.scriptThai), (["devanagari", "deva"], Text.scriptDevanagari)]

/-- The properties that are no category and no script. -/
def binaryProperties : List (List String × CharSet) := [
  (["any"], complement nothing),
  (["ascii"], range '\x00' '\x7f'),
  (["assigned"], tables (assignedTables ++ [Text.categoryCc, Text.categoryCf, Text.categoryCo])),
  (["unassigned", "cn"],
    complement (tables (assignedTables ++ [Text.categoryCc, Text.categoryCf, Text.categoryCo]))),
  (["other", "c"], complement (tables assignedTables)),
  (["alphabetic", "alpha"], property Text.isAlphabetic),
  (["uppercase", "upper"], property Text.isUppercase),
  (["lowercase", "lower"], property (fun c => Text.isCased c && Text.lowerChar c == [c] && !Text.isUppercase c)),
  (["cased"], property Text.isCased),
  (["caseignorable", "ci"], property Text.isCaseIgnorable),
  (["whitespace", "wspace", "space"], property Text.isBlank)]

/-- The name of a property as it is looked up: case, blanks and separators do not count. -/
def looseName (name : List Char) : String :=
  let letters := (name.filter (fun c => c != ' ' && c != '_' && c != '-')).map Char.toLower
  match letters with
  | 'i' :: 's' :: c :: rest => String.ofList (c :: rest)
  | _ => String.ofList letters

/-- The set under one of the given names. -/
def named? {α : Type} (entries : List (List String × α)) (name : String) : Option α :=
  (entries.find? (fun entry => entry.1.contains name)).map Prod.snd

/-- The property of the given name. -/
def property? (name : List Char) : Option CharSet :=
  let name := looseName name
  (named? binaryProperties name).or
    (((named? categories name).map tables).or ((named? scripts name).map table))

/-- The characters for which a property has a value. -/
def propertyValue? (property value : List Char) : Option CharSet :=
  let value := looseName value
  if ["generalcategory", "gc"].contains (looseName property) then
    ((named? categories value).map tables).or (named? (binaryProperties.take 5) value)
  else if ["script", "sc", "scriptextensions", "scx"].contains (looseName property) then
    (named? scripts value).map table
  else none

end CharSet

end Pattern
end Scaffold
