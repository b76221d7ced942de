import RegexGolf.Regex.Classes
import RegexGolf.Regex.Fault
import RegexGolf.Unicode.Age
import RegexGolf.Unicode.GraphemeBreak
import RegexGolf.Unicode.Script
import RegexGolf.Unicode.SentenceBreak
import RegexGolf.Unicode.WordBreak

/-!
The sets that patterns call by the name of a Unicode property (`\p…`). A name may be that of a
category, a script or a yes-or-no property, or a property and a value; it is matched loosely,
without regard to case, blanks, underscores, hyphens and a leading `is`. All sets are those of the
standard's version 16.0.
-/

namespace RegexGolf.Regex.Property

open Unicode

/-- The loose form of a name. What is not ASCII is left out. The name `isc` keeps its first two
letters, because `c` alone names something else. -/
def looseName (name : List Char) : String :=
  let marked := (name.take 2).map Char.toLower == ['i', 's']
  let body := if marked then name.drop 2 else name
  let kept := body.filter fun c => c.toNat < 128 && c != ' ' && c != '_' && c != '-'
  let low := kept.map Char.toLower
  .ofList (if marked && low == ['c'] then ['i', 's', 'c'] else low)

def categoryNames : List (List String × Category) :=
  [(["uppercaseletter", "lu"], .uppercaseLetter), (["lowercaseletter", "ll"], .lowercaseLetter),
    (["titlecaseletter", "lt"], .titlecaseLetter), (["modifierletter", "lm"], .modifierLetter),
    (["otherletter", "lo"], .otherLetter), (["nonspacingmark", "mn"], .nonspacingMark),
    (["spacingmark", "mc"], .spacingMark), (["enclosingmark", "me"], .enclosingMark),
    (["decimalnumber", "nd", "digit"], .decimalNumber), (["letternumber", "nl"], .letterNumber),
    (["othernumber", "no"], .otherNumber),
    (["connectorpunctuation", "pc"], .connectorPunctuation),
    (["dashpunctuation", "pd"], .dashPunctuation), (["openpunctuation", "ps"], .openPunctuation),
    (["closepunctuation", "pe"], .closePunctuation),
    (["initialpunctuation", "pi"], .initialPunctuation),
    (["finalpunctuation", "pf"], .finalPunctuation),
    (["otherpunctuation", "po"], .otherPunctuation), (["mathsymbol", "sm"], .mathSymbol),
    (["currencysymbol", "sc"], .currencySymbol), (["modifiersymbol", "sk"], .modifierSymbol),
    (["othersymbol", "so"], .otherSymbol), (["spaceseparator", "zs"], .spaceSeparator),
    (["lineseparator", "zl"], .lineSeparator),
    (["paragraphseparator", "zp"], .paragraphSeparator), (["control", "cc", "cntrl"], .control),
    (["format", "cf"], .format), (["privateuse", "co"], .privateUse)]

def ofCategories (ks : List Category) : CharSet :=
  .unions (ks.map fun k => .listed k.members)

def unassigned : CharSet := .compl (ofCategories Category.listed)

def categoryGroups : List (List String × CharSet) :=
  [(["letter", "l"],
      ofCategories [.uppercaseLetter, .lowercaseLetter, .titlecaseLetter, .modifierLetter,
        .otherLetter]),
    (["casedletter", "lc"], ofCategories [.uppercaseLetter, .lowercaseLetter, .titlecaseLetter]),
    (["mark", "m", "combiningmark"],
      ofCategories [.nonspacingMark, .spacingMark, .enclosingMark]),
    (["number", "n"], ofCategories [.decimalNumber, .letterNumber, .otherNumber]),
    (["punctuation", "p", "punct"],
      ofCategories [.connectorPunctuation, .dashPunctuation, .openPunctuation, .closePunctuation,
        .initialPunctuation, .finalPunctuation, .otherPunctuation]),
    (["symbol", "s"], ofCategories [.mathSymbol, .currencySymbol, .modifierSymbol, .otherSymbol]),
    (["separator", "z"],
      ofCategories [.spaceSeparator, .lineSeparator, .paragraphSeparator]),
    (["other", "c"],
      .union (ofCategories [.control, .format, .privateUse]) unassigned),
    (["unassigned", "cn"], unassigned),
    (["assigned"], ofCategories Category.listed),
    (["any"], .all),
    (["ascii"], .interval '\x00' '\x7F')]

def byName? {α : Type} (entries : List (List String × α)) (name : String) : Option α :=
  (entries.find? fun e => e.1.contains name).map (·.2)

/-- A category by its loose name. Surrogates are named but have no characters, so theirs is the
name of a set that does not exist. -/
def category? (name : String) : Option (Except Fault CharSet) :=
  if name = "surrogate" ∨ name = "cs" then some (.error .propertyValueNotFound)
  else
    match byName? categoryNames name with
    | some k => some (.ok (.listed k.members))
    | none => (byName? categoryGroups name).map .ok

def script? (name : String) : Option Script := Script.all.find? fun s => s.names.contains name

/-- Two script names are defined but never given to a character. -/
def isBareScript (name : String) : Bool :=
  ["unknown", "zzzz", "katakanaorhiragana", "hrkt"].contains name

def named? (sets : List NamedSet) (name : String) : Option CharSet :=
  (NamedSet.find? sets name).map fun s => .listed s.members

def binary? (name : String) : Option CharSet := named? BinaryProperty.all name

/-- The characters that a version of the standard has, by the name of the version. -/
def age? (name : String) : Option CharSet :=
  (Age.upTo? name).map fun versions => .unions (versions.map fun v => .listed v.members)

def usedBy? (name : String) : Option CharSet :=
  (script? name).map fun s =>
    .union (.listed s.borrowed) (.diff (.listed s.members) (.listed s.shared))

def valued : List (List String × (String → Option CharSet)) :=
  [(["script", "sc"], fun name => (script? name).map fun s => .listed s.members),
    (["scriptextensions", "scx"], usedBy?),
    (["age"], age?),
    (["graphemeclusterbreak", "gcb"], named? GraphemeBreak.classes),
    (["wordbreak", "wb"], named? WordBreak.classes),
    (["sentencebreak", "sb"], named? SentenceBreak.classes)]

/-- The loose names of further properties, which patterns may mention but not ask for. -/
def otherProperties : List String :=
  ["bc", "bidiclass", "bidim", "bidimirrored", "bidimirroringglyph", "bidipairedbracket",
    "bidipairedbrackettype", "blk", "block", "bmg", "bpb", "bpt", "canonicalcombiningclass",
    "casefolding", "ccc", "ce", "cf", "changeswhennfkccasefolded", "cjkaccountingnumeric",
    "cjkcompatibilityvariant", "cjkiicore", "cjkirggsource", "cjkirghsource", "cjkirgjsource",
    "cjkirgkpsource", "cjkirgksource", "cjkirgmsource", "cjkirgssource", "cjkirgtsource",
    "cjkirguksource", "cjkirgusource", "cjkirgvsource", "cjkothernumeric", "cjkprimarynumeric",
    "cjkrsunicode", "compex", "compositionexclusion", "cwkcf", "decompositionmapping",
    "decompositiontype", "dm", "dt", "ea", "eastasianwidth", "equideo",
    "equivalentunifiedideograph", "expandsonnfc", "expandsonnfd", "expandsonnfkc",
    "expandsonnfkd", "fcnfkc", "fcnfkcclosure", "fullcompositionexclusion",
    "hangulsyllabletype", "hst", "incb", "indicconjunctbreak", "indicpositionalcategory",
    "indicsyllabiccategory", "inpc", "insc", "isc", "jamoshortname", "jg", "joininggroup",
    "joiningtype", "jsn", "jt", "kaccountingnumeric", "kcompatibilityvariant", "kehcat",
    "kehdesc", "kehhg", "kehifao", "kehjsesh", "kehnomirror", "kehnorotate", "kiicore",
    "kirggsource", "kirghsource", "kirgjsource", "kirgkpsource", "kirgksource", "kirgmsource",
    "kirgssource", "kirgtsource", "kirguksource", "kirgusource", "kirgvsource", "kothernumeric",
    "kprimarynumeric", "krsunicode", "lb", "lc", "linebreak", "lowercasemapping", "na", "na1",
    "name", "namealias", "nfcqc", "nfcquickcheck", "nfdqc", "nfdquickcheck", "nfkccasefold",
    "nfkccf", "nfkcqc", "nfkcquickcheck", "nfkcscf", "nfkcsimplecasefold", "nfkdqc",
    "nfkdquickcheck", "nt", "numerictype", "numericvalue", "nv", "ocomment", "scf", "sfc",
    "simplecasefolding", "simplelowercasemapping", "simpletitlecasemapping",
    "simpleuppercasemapping", "slc", "stc", "suc", "tc", "titlecasemapping", "uc",
    "unicode1name", "unicoderadicalstroke", "uppercasemapping", "urs", "verticalorientation",
    "vo", "xonfc", "xonfd", "xonfkc", "xonfkd"]

/-- A set by one name: a yes-or-no property, a category or a script, in this order. -/
def find (name : List Char) : Except Fault CharSet :=
  let loose := looseName name
  match binary? loose with
  | some set => .ok set
  | none =>
    match category? loose with
    | some answer => answer
    | none =>
      match script? loose with
      | some s => .ok (.listed s.members)
      | none => .error (if isBareScript loose then .propertyValueNotFound else .propertyNotFound)

def findValue (name value : List Char) : Except Fault CharSet :=
  let property := looseName name
  let loose := looseName value
  if ["generalcategory", "gc"].contains property then
    (category? loose).getD (.error .propertyValueNotFound)
  else
    match byName? valued property with
    | some set? => (set? loose).elim (.error .propertyValueNotFound) .ok
    | none =>
      if (binary? property).isSome || otherProperties.contains property then
        .error .propertyValueNotFound
      else .error .propertyNotFound

end RegexGolf.Regex.Property
