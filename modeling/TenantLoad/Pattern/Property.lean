import TenantLoad.Pattern.CharSet
import TenantLoad.Text.Script

/-!
# Properties of characters by name

A pattern names a property by a general category, a script or a binary
property.  Names are compared without case, blanks, hyphens and underscores,
and without a leading `is`.

The general categories are complete.  The scripts Common and Inherited and most
binary properties are approximate: they are given by general categories and by
the ranges of the characters in common use.  Ages and the properties of breaks
between graphemes, words and sentences are not known, and a pattern that names
one is refused.
-/

namespace TenantLoad
namespace Pattern

/-- The general categories by long and short name. -/
def categoryNames : List (List String × List String) :=
  [(["casedletter", "lc"], ["Lu", "Ll", "Lt"]),
    (["closepunctuation", "pe"], ["Pe"]),
    (["connectorpunctuation", "pc"], ["Pc"]),
    (["control", "cc", "cntrl"], ["Cc"]),
    (["currencysymbol", "sc"], ["Sc"]),
    (["dashpunctuation", "pd"], ["Pd"]),
    (["decimalnumber", "nd", "digit"], ["Nd"]),
    (["enclosingmark", "me"], ["Me"]),
    (["finalpunctuation", "pf"], ["Pf"]),
    (["format", "cf"], ["Cf"]),
    (["initialpunctuation", "pi"], ["Pi"]),
    (["letter", "l"], ["Lu", "Ll", "Lt", "Lm", "Lo"]),
    (["letternumber", "nl"], ["Nl"]),
    (["lineseparator", "zl"], ["Zl"]),
    (["lowercaseletter", "ll"], ["Ll"]),
    (["mark", "m", "combiningmark"], ["Mn", "Mc", "Me"]),
    (["mathsymbol", "sm"], ["Sm"]),
    (["modifierletter", "lm"], ["Lm"]),
    (["modifiersymbol", "sk"], ["Sk"]),
    (["nonspacingmark", "mn"], ["Mn"]),
    (["number", "n"], ["Nd", "Nl", "No"]),
    (["openpunctuation", "ps"], ["Ps"]),
    (["other", "c"], ["Cc", "Cf", "Cn", "Co", "Cs"]),
    (["otherletter", "lo"], ["Lo"]),
    (["othernumber", "no"], ["No"]),
    (["otherpunctuation", "po"], ["Po"]),
    (["othersymbol", "so"], ["So"]),
    (["paragraphseparator", "zp"], ["Zp"]),
    (["privateuse", "co"], ["Co"]),
    (["punctuation", "p", "punct"], ["Pc", "Pd", "Ps", "Pe", "Pi", "Pf", "Po"]),
    (["separator", "z"], ["Zs", "Zl", "Zp"]),
    (["spaceseparator", "zs"], ["Zs"]),
    (["spacingmark", "mc"], ["Mc"]),
    (["symbol", "s"], ["Sm", "Sc", "Sk", "So"]),
    (["titlecaseletter", "lt"], ["Lt"]),
    (["unassigned", "cn"], ["Cn"]),
    (["uppercaseletter", "lu"], ["Lu"])]

/-- The set of a general category. -/
def categorySet? (name : String) : Option CharSet :=
  match name with
  | "any" => some .any
  | "ascii" => some (.range '\x00' '\x7f')
  | "assigned" => some (.complement (.category ["Cn"]))
  | _ =>
    (categoryNames.find? fun entry => entry.1.contains name).map fun entry => .category entry.2

/-- The set of a script. -/
def scriptSet? (name : String) : Option CharSet :=
  match name with
  | "common" | "zyyy" =>
    some (.category
      ["Nd", "No", "Pc", "Pd", "Ps", "Pe", "Pi", "Pf", "Po", "Sm", "Sc", "Sk", "So", "Zs", "Zl",
        "Zp", "Cc", "Cf"])
  | "inherited" | "zinh" | "qaai" => some (.category ["Mn", "Me"])
  | _ => (Text.scriptRanges? name).map .ranges

/-- Letters in upper case, with the letter numbers and symbols among them. -/
def uppercase : CharSet :=
  .union (.category ["Lu"])
    (.ranges [(0x2160, 0x216f), (0x24b6, 0x24cf), (0x1f130, 0x1f149), (0x1f150, 0x1f169),
      (0x1f170, 0x1f189)])

/-- Letters in lower case, with the modifiers, numbers and symbols among them. -/
def lowercase : CharSet :=
  .union (.category ["Ll"])
    (.ranges [(0xaa, 0xaa), (0xba, 0xba), (0x2b0, 0x2b8), (0x2c0, 0x2c1), (0x2e0, 0x2e4),
      (0x345, 0x345), (0x37a, 0x37a), (0x1d2c, 0x1d6a), (0x1d78, 0x1d78), (0x1d9b, 0x1dbf),
      (0x2071, 0x2071), (0x207f, 0x207f), (0x2090, 0x209c), (0x2170, 0x217f), (0x24d0, 0x24e9)])

/-- Letters and letter numbers, the characters that may start a name. -/
def nameStart : CharSet := .category ["Lu", "Ll", "Lt", "Lm", "Lo", "Nl"]

/-- The characters that may follow the start of a name. -/
def nameRest : CharSet := .union nameStart (.category ["Mn", "Mc", "Nd", "Pc"])

/-- Pictographs. -/
def pictograph : CharSet :=
  .ranges [(0xa9, 0xa9), (0xae, 0xae), (0x203c, 0x203c), (0x2049, 0x2049), (0x2122, 0x2122),
    (0x2139, 0x2139), (0x2194, 0x2199), (0x21a9, 0x21aa), (0x231a, 0x231b), (0x23e9, 0x23f3),
    (0x25aa, 0x25ab), (0x25fb, 0x25fe), (0x2600, 0x2604), (0x2614, 0x2615), (0x2648, 0x2653),
    (0x2702, 0x27b0), (0x2b05, 0x2b07), (0x2b1b, 0x2b1c), (0x1f004, 0x1f004), (0x1f300, 0x1f64f),
    (0x1f680, 0x1f6ff), (0x1f900, 0x1f9ff), (0x1fa70, 0x1faff)]

/-- The binary properties by name. -/
def binaryProperties : List (List String × CharSet) :=
  [(["asciihexdigit", "ahex"], .ofRanges [('0', '9'), ('A', 'F'), ('a', 'f')]),
    (["alphabetic", "alpha"], .alphabetic),
    (["bidicontrol", "bidic"], .ranges [(0x61c, 0x61c), (0x200e, 0x200f), (0x202a, 0x202e),
      (0x2066, 0x2069)]),
    (["cased"], .union (.category ["Lt"]) (.union uppercase lowercase)),
    (["caseignorable", "ci"], .category ["Mn", "Me", "Cf", "Lm", "Sk"]),
    (["changeswhencasefolded", "cwcf"], uppercase),
    (["changeswhencasemapped", "cwcm"], .union uppercase lowercase),
    (["changeswhenlowercased", "cwl"], uppercase),
    (["changeswhentitlecased", "cwt"], lowercase),
    (["changeswhenuppercased", "cwu"], lowercase),
    (["dash"], .union (.category ["Pd"]) (.ranges [(0x2053, 0x2053), (0x207b, 0x207b),
      (0x208b, 0x208b), (0x2212, 0x2212)])),
    (["defaultignorablecodepoint", "di"], .ranges [(0xad, 0xad), (0x34f, 0x34f),
      (0x200b, 0x200f), (0x2060, 0x206f), (0xfe00, 0xfe0f), (0xfeff, 0xfeff),
      (0xe0000, 0xe0fff)]),
    (["deprecated", "dep"], .ranges [(0x149, 0x149), (0x673, 0x673), (0x17a3, 0x17a4)]),
    (["diacritic", "dia"], .category ["Mn", "Sk", "Lm"]),
    (["emoji"], .union pictograph (.ranges [(0x23, 0x23), (0x2a, 0x2a), (0x30, 0x39)])),
    (["emojicomponent", "ecomp"], .ranges [(0x23, 0x23), (0x2a, 0x2a), (0x30, 0x39),
      (0x200d, 0x200d), (0xfe0f, 0xfe0f), (0x1f1e6, 0x1f1ff), (0x1f3fb, 0x1f3ff)]),
    (["emojimodifier", "emod"], .ranges [(0x1f3fb, 0x1f3ff)]),
    (["emojimodifierbase", "ebase"], .ranges [(0x1f3c2, 0x1f3c4), (0x1f442, 0x1f443),
      (0x1f446, 0x1f450), (0x1f466, 0x1f478)]),
    (["emojipresentation", "epres"], pictograph),
    (["extendedpictographic", "extpict"], pictograph),
    (["extender", "ext"], .ranges [(0xb7, 0xb7), (0x2d0, 0x2d1), (0x640, 0x640),
      (0x3005, 0x3005), (0x3031, 0x3035), (0x309d, 0x309e), (0x30fc, 0x30fe)]),
    (["graphemebase", "grbase"], .complement (.category ["Cc", "Cf", "Cs", "Co", "Cn", "Zl",
      "Zp", "Mn", "Me"])),
    (["graphemeextend", "grext"], .category ["Mn", "Me"]),
    (["hexdigit", "hex"], .ranges [(0x30, 0x39), (0x41, 0x46), (0x61, 0x66), (0xff10, 0xff19),
      (0xff21, 0xff26), (0xff41, 0xff46)]),
    (["idcontinue", "idc"], nameRest),
    (["idstart", "ids"], nameStart),
    (["idsbinaryoperator", "idsb"], .ranges [(0x2ff0, 0x2ff1), (0x2ff4, 0x2ffb)]),
    (["idstrinaryoperator", "idst"], .ranges [(0x2ff2, 0x2ff3)]),
    (["ideographic", "ideo"], .ranges [(0x3006, 0x3007), (0x3400, 0x4dbf), (0x4e00, 0x9fff),
      (0xf900, 0xfad9), (0x20000, 0x2ebe0)]),
    (["joincontrol", "joinc"], .ranges [(0x200c, 0x200d)]),
    (["logicalorderexception", "loe"], .ranges [(0xe40, 0xe44), (0xec0, 0xec4)]),
    (["lowercase", "lower"], lowercase),
    (["math"], .category ["Sm"]),
    (["noncharactercodepoint", "nchar"], .ranges [(0xfdd0, 0xfdef), (0xfffe, 0xffff)]),
    (["patternsyntax", "patsyn"], .category ["Po", "Ps", "Pe", "Pd", "Sm", "So"]),
    (["patternwhitespace", "patws"], .ranges [(0x9, 0xd), (0x20, 0x20), (0x85, 0x85),
      (0x200e, 0x200f), (0x2028, 0x2029)]),
    (["prependedconcatenationmark", "pcm"], .ranges [(0x600, 0x605), (0x6dd, 0x6dd)]),
    (["quotationmark", "qmark"], .union (.category ["Pi", "Pf"]) (.ranges [(0x22, 0x22),
      (0x27, 0x27)])),
    (["radical"], .ranges [(0x2e80, 0x2e99), (0x2e9b, 0x2ef3), (0x2f00, 0x2fd5)]),
    (["regionalindicator", "ri"], .ranges [(0x1f1e6, 0x1f1ff)]),
    (["sentenceterminal", "sterm"], .ranges [(0x21, 0x21), (0x2e, 0x2e), (0x3f, 0x3f),
      (0x3002, 0x3002)]),
    (["softdotted", "sd"], .ranges [(0x69, 0x6a), (0x12f, 0x12f)]),
    (["terminalpunctuation", "term"], .ranges [(0x21, 0x21), (0x2c, 0x2c), (0x2e, 0x2e),
      (0x3a, 0x3b), (0x3f, 0x3f), (0x3001, 0x3002)]),
    (["unifiedideograph", "uideo"], .ranges [(0x3400, 0x4dbf), (0x4e00, 0x9fff),
      (0x20000, 0x2ebe0)]),
    (["uppercase", "upper"], uppercase),
    (["variationselector", "vs"], .ranges [(0x180b, 0x180d), (0xfe00, 0xfe0f),
      (0xe0100, 0xe01ef)]),
    (["whitespace", "wspace", "space"], .space),
    (["xidcontinue", "xidc"], nameRest),
    (["xidstart", "xids"], nameStart)]

/-- The set of a binary property. -/
def binarySet? (name : String) : Option CharSet :=
  (binaryProperties.find? fun entry => entry.1.contains name).map fun entry => entry.2

/-- A name as it is compared. -/
def plainName (name : String) : String :=
  let kept := name.toList.filterMap fun character =>
    if character.toNat < 0x80 ∧ character ≠ ' ' ∧ character ≠ '_' ∧ character ≠ '-' then
      some character.toLower
    else
      none
  match kept with
  | ['i', 's', 'c'] => "isc"
  | 'i' :: 's' :: rest => String.ofList rest
  | kept => String.ofList kept

/-- The set of a property given by one name. -/
def namedSet? (name : String) : Option CharSet :=
  let name := plainName name
  let binary := if name = "cf" ∨ name = "sc" ∨ name = "lc" then none else binarySet? name
  binary.or ((categorySet? name).or (scriptSet? name))

/-- The set of a property given by the name of a property and a value. -/
def valuedSet? (property value : String) : Option CharSet :=
  let value := plainName value
  match plainName property with
  | "generalcategory" | "gc" => categorySet? value
  | "script" | "sc" | "scriptextensions" | "scx" => scriptSet? value
  | _ => none

end Pattern
end TenantLoad
