import Logworks.Unicode.ScriptTable
import Logworks.Unicode.ExtensionTable
import Logworks.Unicode.CategoryTable
import Logworks.Unicode.PropertyTable
import Logworks.Unicode.AgeTable
import Logworks.Unicode.BreakTable

/-!
# Names of character properties

A set may be given by the name of a general category, a script or a binary property, or by a
property with one of its values: general category, script, script extensions, age, or the part in
the division into visible units, words or sentences. Names are long or short, in any case, with or
without blanks, hyphens and underscores. This file fixes

* `normalName` -- the form names are compared in;
* `namedSet?` -- the set of a name that stands alone;
* `valuedSet?` -- the set of a property and a value.
-/

namespace Logworks.Regex

open Logworks.Unicode

/-! ## Names -/

/-- The characters of a name that count, in small letters. -/
def bareName (name : List Char) : List Char :=
  (name.filter fun c => c != ' ' && c != '-' && c != '_' && c.toNat < 128).map Char.toLower

/-- A name in the form names are compared in: without a leading `is`, which must be its first two
characters. `isc` is a name of its own and keeps them. -/
def normalName (name : List Char) : String :=
  String.ofList <|
    match name with
    | a :: b :: rest =>
      if a.toLower = 'i' ∧ b.toLower = 's' then
        let bare := bareName rest
        if bare = ['c'] then ['i', 's', 'c'] else bare
      else bareName name
    | _ => bareName name

/-- Whether a name of a table, which starts with no `is`, has a normal form. -/
def sameName (wanted name : String) : Bool := String.ofList (bareName name.toList) == wanted

/-- The entry of a table with long and short names. -/
def findNamed? (table : List (String × String × List String)) (wanted : String) :
    Option (String × Ranges) :=
  (table.find? fun t => sameName wanted t.1 || sameName wanted t.2.1).map fun t =>
    (t.1, .ofLines t.2.2)

/-! ## Tables -/

/-- Code points that are no characters by themselves: they belong to the category `Other`, where
they close the gap between those around them. -/
def surrogates : Ranges := [(0xD800, 0xDFFF)]

/-- The groups and names of general categories, as the short names they stand for. -/
def categoryNames : List (String × List String) :=
  [("l", ["Lu", "Ll", "Lt", "Lm", "Lo"]), ("letter", ["Lu", "Ll", "Lt", "Lm", "Lo"]),
   ("lc", ["Lu", "Ll", "Lt"]), ("casedletter", ["Lu", "Ll", "Lt"]),
   ("lu", ["Lu"]), ("uppercaseletter", ["Lu"]), ("ll", ["Ll"]), ("lowercaseletter", ["Ll"]),
   ("lt", ["Lt"]), ("titlecaseletter", ["Lt"]), ("lm", ["Lm"]), ("modifierletter", ["Lm"]),
   ("lo", ["Lo"]), ("otherletter", ["Lo"]),
   ("m", ["Mn", "Mc", "Me"]), ("mark", ["Mn", "Mc", "Me"]), ("combiningmark", ["Mn", "Mc", "Me"]),
   ("mn", ["Mn"]), ("nonspacingmark", ["Mn"]), ("mc", ["Mc"]), ("spacingmark", ["Mc"]),
   ("me", ["Me"]), ("enclosingmark", ["Me"]),
   ("n", ["Nd", "Nl", "No"]), ("number", ["Nd", "Nl", "No"]),
   ("nd", ["Nd"]), ("decimalnumber", ["Nd"]), ("digit", ["Nd"]), ("nl", ["Nl"]),
   ("letternumber", ["Nl"]), ("no", ["No"]), ("othernumber", ["No"]),
   ("p", ["Pc", "Pd", "Ps", "Pe", "Pi", "Pf", "Po"]),
   ("punctuation", ["Pc", "Pd", "Ps", "Pe", "Pi", "Pf", "Po"]),
   ("punct", ["Pc", "Pd", "Ps", "Pe", "Pi", "Pf", "Po"]),
   ("pc", ["Pc"]), ("connectorpunctuation", ["Pc"]), ("pd", ["Pd"]), ("dashpunctuation", ["Pd"]),
   ("ps", ["Ps"]), ("openpunctuation", ["Ps"]), ("pe", ["Pe"]), ("closepunctuation", ["Pe"]),
   ("pi", ["Pi"]), ("initialpunctuation", ["Pi"]), ("pf", ["Pf"]), ("finalpunctuation", ["Pf"]),
   ("po", ["Po"]), ("otherpunctuation", ["Po"]),
   ("s", ["Sm", "Sc", "Sk", "So"]), ("symbol", ["Sm", "Sc", "Sk", "So"]),
   ("sm", ["Sm"]), ("mathsymbol", ["Sm"]), ("sc", ["Sc"]), ("currencysymbol", ["Sc"]),
   ("sk", ["Sk"]), ("modifiersymbol", ["Sk"]), ("so", ["So"]), ("othersymbol", ["So"]),
   ("z", ["Zs", "Zl", "Zp"]), ("separator", ["Zs", "Zl", "Zp"]),
   ("zs", ["Zs"]), ("spaceseparator", ["Zs"]), ("zl", ["Zl"]), ("lineseparator", ["Zl"]),
   ("zp", ["Zp"]), ("paragraphseparator", ["Zp"]),
   ("cc", ["Cc"]), ("control", ["Cc"]), ("cntrl", ["Cc"]), ("cf", ["Cf"]), ("format", ["Cf"]),
   ("co", ["Co"]), ("privateuse", ["Co"]), ("cn", ["Cn"]), ("unassigned", ["Cn"])]

/-- The category of what is no character, whatever the reason. -/
def otherRanges : Ranges :=
  .normal (["Cc", "Cf", "Co", "Cn"].flatMap category ++ surrogates)

def generalCategory? (name : String) : Option Ranges :=
  if name == "any" then some [(0, lastPoint)]
  else if name == "ascii" then some [(0, 127)]
  else if name == "assigned" then some (category "Cn").negation
  else if name == "c" || name == "other" then some otherRanges
  else (categoryNames.lookup name).map fun cs => .normal (cs.flatMap category)

/-- White space has a third name. -/
def binaryProperty? (name : String) : Option Ranges :=
  if name == "space" then some (property "White_Space")
  else (findNamed? propertyTexts name).map (·.2)

/-- Two scripts have a name left from before they were told apart from others. -/
def scriptName (name : String) : String :=
  if name == "qaai" then "inherited" else if name == "qaac" then "coptic" else name

def script? (name : String) : Option Ranges :=
  (findNamed? scriptTexts (scriptName name)).map (·.2)

def scriptExtensions? (name : String) : Option Ranges :=
  (findNamed? scriptTexts (scriptName name)).map fun (long, own) => extended long own

/-- A version is named by its two numbers with a point between them, or behind a `v` without it. -/
def age? (name : String) : Option Ranges :=
  (ageTexts.find? fun a =>
    a.1 == name || String.ofList ('v' :: a.1.toList.filter (· != '.')) == name).map fun a =>
      agesUpTo a.1 ageTexts

/-! ## Sets by name -/

/-- The set of a name that stands alone. `cf`, `sc` and `lc` are categories. -/
def namedSet? (name : List Char) : Option Ranges :=
  let n := normalName name
  let byProperty := if n == "cf" || n == "sc" || n == "lc" then none else binaryProperty? n
  byProperty.or ((generalCategory? n).or (script? n))

/-- The set of a value of a property with values. -/
def valuedSet? (property value : List Char) : Option Ranges :=
  let v := normalName value
  match normalName property with
  | "generalcategory" | "gc" => generalCategory? v
  | "script" | "sc" => script? v
  | "scriptextensions" | "scx" => scriptExtensions? v
  | "age" => age? v
  | "graphemeclusterbreak" | "gcb" => (findNamed? unitBreakTexts v).map (·.2)
  | "wordbreak" | "wb" => (findNamed? wordBreakTexts v).map (·.2)
  | "sentencebreak" | "sb" => (findNamed? sentenceBreakTexts v).map (·.2)
  | _ => none

end Logworks.Regex
