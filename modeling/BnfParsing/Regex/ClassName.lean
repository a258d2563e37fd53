import BnfParsing.Text.Basic
import BnfParsing.Unicode.Property
import BnfParsing.Unicode.Script

/-!
Contract: the names under which an expression may ask for a set of characters.

Owns: the loose spelling of Unicode names, the names of categories, scripts
and binary properties, and the bracketed ASCII classes.

Does not own: where in an expression a name may stand.
-/

set_option autoImplicit false

namespace BnfParsing.Regex.ClassName

open BnfParsing.Unicode

private def withoutIs : Text → Text × Bool
  | first :: second :: rest =>
      if Text.asciiLower first = 'i' ∧ Text.asciiLower second = 's' then (rest, true)
      else (first :: second :: rest, false)
  | text => (text, false)

/-- The loose form of a name: lower case, without spaces, underscores, hyphens,
characters outside ASCII and a leading "is". The name "isc" stays as it is,
since "c" alone is a category. -/
def normalize (name : Text) : Text :=
  let (body, hadIs) := withoutIs name
  let kept := (body.map Text.asciiLower).filter fun character =>
    character.toNat < 0x80 && character != ' ' && character != '_' && character != '-'
  if hadIs && kept == ['c'] then "isc".toList else kept

/-- General categories under their short and long names. -/
def categories : List (String × CodePointSet) := [
    ("any", .full), ("ascii", .ofRange 0 0x7F), ("assigned", Category.assigned),
    ("l", Category.letter), ("letter", Category.letter),
    ("lc", Category.casedLetter), ("casedletter", Category.casedLetter),
    ("lu", Category.uppercaseLetter), ("uppercaseletter", Category.uppercaseLetter),
    ("ll", Category.lowercaseLetter), ("lowercaseletter", Category.lowercaseLetter),
    ("lt", Category.titlecaseLetter), ("titlecaseletter", Category.titlecaseLetter),
    ("lm", Category.modifierLetter), ("modifierletter", Category.modifierLetter),
    ("lo", Category.otherLetter), ("otherletter", Category.otherLetter),
    ("m", Category.mark), ("mark", Category.mark), ("combiningmark", Category.mark),
    ("mn", Category.nonspacingMark), ("nonspacingmark", Category.nonspacingMark),
    ("mc", Category.spacingMark), ("spacingmark", Category.spacingMark),
    ("me", Category.enclosingMark), ("enclosingmark", Category.enclosingMark),
    ("n", Category.number), ("number", Category.number),
    ("nd", Category.decimalNumber), ("decimalnumber", Category.decimalNumber),
    ("digit", Category.decimalNumber),
    ("nl", Category.letterNumber), ("letternumber", Category.letterNumber),
    ("no", Category.otherNumber), ("othernumber", Category.otherNumber),
    ("p", Category.punctuation), ("punctuation", Category.punctuation),
    ("punct", Category.punctuation),
    ("pc", Category.connectorPunctuation),
    ("connectorpunctuation", Category.connectorPunctuation),
    ("pd", Category.dashPunctuation), ("dashpunctuation", Category.dashPunctuation),
    ("ps", Category.openPunctuation), ("openpunctuation", Category.openPunctuation),
    ("pe", Category.closePunctuation), ("closepunctuation", Category.closePunctuation),
    ("pi", Category.initialPunctuation), ("initialpunctuation", Category.initialPunctuation),
    ("pf", Category.finalPunctuation), ("finalpunctuation", Category.finalPunctuation),
    ("po", Category.otherPunctuation), ("otherpunctuation", Category.otherPunctuation),
    ("s", Category.symbol), ("symbol", Category.symbol),
    ("sm", Category.mathSymbol), ("mathsymbol", Category.mathSymbol),
    ("sc", Category.currencySymbol), ("currencysymbol", Category.currencySymbol),
    ("sk", Category.modifierSymbol), ("modifiersymbol", Category.modifierSymbol),
    ("so", Category.otherSymbol), ("othersymbol", Category.otherSymbol),
    ("z", Category.separator), ("separator", Category.separator),
    ("zs", Category.spaceSeparator), ("spaceseparator", Category.spaceSeparator),
    ("zl", Category.lineSeparator), ("lineseparator", Category.lineSeparator),
    ("zp", Category.paragraphSeparator), ("paragraphseparator", Category.paragraphSeparator),
    ("c", Category.other), ("other", Category.other),
    ("cc", Category.control), ("control", Category.control), ("cntrl", Category.control),
    ("cf", Category.format), ("format", Category.format),
    ("cn", Category.unassigned), ("unassigned", Category.unassigned),
    ("co", Category.privateUse), ("privateuse", Category.privateUse)]

/-- Binary properties under their short and long names. -/
def properties : List (String × CodePointSet) := [
    ("asciihexdigit", Property.asciiHexDigit), ("ahex", Property.asciiHexDigit),
    ("alphabetic", Property.alphabetic), ("alpha", Property.alphabetic),
    ("bidicontrol", Property.bidiControl), ("bidic", Property.bidiControl),
    ("caseignorable", Property.caseIgnorable), ("ci", Property.caseIgnorable),
    ("cased", Property.cased), ("dash", Property.dash),
    ("defaultignorablecodepoint", Property.defaultIgnorableCodePoint),
    ("di", Property.defaultIgnorableCodePoint),
    ("deprecated", Property.deprecated), ("dep", Property.deprecated),
    ("diacritic", Property.diacritic), ("dia", Property.diacritic),
    ("emoji", Property.emoji),
    ("emojicomponent", Property.emojiComponent), ("ecomp", Property.emojiComponent),
    ("emojimodifier", Property.emojiModifier), ("emod", Property.emojiModifier),
    ("emojimodifierbase", Property.emojiModifierBase), ("ebase", Property.emojiModifierBase),
    ("emojipresentation", Property.emojiPresentation), ("epres", Property.emojiPresentation),
    ("extendedpictographic", Property.extendedPictographic),
    ("extpict", Property.extendedPictographic),
    ("extender", Property.extender), ("ext", Property.extender),
    ("graphemebase", Property.graphemeBase), ("grbase", Property.graphemeBase),
    ("graphemeextend", Property.graphemeExtend), ("grext", Property.graphemeExtend),
    ("hexdigit", Property.hexDigit), ("hex", Property.hexDigit),
    ("idcontinue", Property.idContinue), ("idc", Property.idContinue),
    ("idstart", Property.idStart), ("ids", Property.idStart),
    ("ideographic", Property.ideographic), ("ideo", Property.ideographic),
    ("joincontrol", Property.joinControl), ("joinc", Property.joinControl),
    ("logicalorderexception", Property.logicalOrderException),
    ("loe", Property.logicalOrderException),
    ("lowercase", Property.lowercase), ("lower", Property.lowercase),
    ("math", Property.math),
    ("noncharactercodepoint", Property.noncharacterCodePoint),
    ("nchar", Property.noncharacterCodePoint),
    ("patternsyntax", Property.patternSyntax), ("patsyn", Property.patternSyntax),
    ("patternwhitespace", Property.patternWhiteSpace), ("patws", Property.patternWhiteSpace),
    ("quotationmark", Property.quotationMark), ("qmark", Property.quotationMark),
    ("radical", Property.radical),
    ("regionalindicator", Property.regionalIndicator), ("ri", Property.regionalIndicator),
    ("sentenceterminal", Property.sentenceTerminal), ("sterm", Property.sentenceTerminal),
    ("softdotted", Property.softDotted), ("sd", Property.softDotted),
    ("terminalpunctuation", Property.terminalPunctuation),
    ("term", Property.terminalPunctuation),
    ("unifiedideograph", Property.unifiedIdeograph), ("uideo", Property.unifiedIdeograph),
    ("uppercase", Property.uppercase), ("upper", Property.uppercase),
    ("variationselector", Property.variationSelector), ("vs", Property.variationSelector),
    ("whitespace", Property.whiteSpace), ("wspace", Property.whiteSpace),
    ("space", Property.whiteSpace),
    ("xidcontinue", Property.xidContinue), ("xidc", Property.xidContinue),
    ("xidstart", Property.xidStart), ("xids", Property.xidStart)]

private def category? (name : String) : Option CodePointSet :=
  categories.lookup name

private def script? (name : String) : Option CodePointSet :=
  (Script.all.find? fun script => script.code == name || script.name == name).map
    Script.members

/-- The set that a single name stands for: a property, a category or a script. -/
def single? (name : Text) : Option CodePointSet :=
  let name := String.ofList (normalize name)
  (properties.lookup name).or ((category? name).or (script? name))

/-- The set that a value of a property stands for. -/
def valued? (name value : Text) : Option CodePointSet :=
  let name := String.ofList (normalize name)
  let value := String.ofList (normalize value)
  if name == "gc" || name == "generalcategory" then category? value
  else if name == "sc" || name == "script" then script? value
  else none

/-- The ASCII classes that are written between `[:` and `:]`. -/
def ascii? (name : Text) : Option CodePointSet :=
  match String.ofList name with
  | "alnum" => some ⟨[0x30, 0x3A, 0x41, 0x5B, 0x61, 0x7B]⟩
  | "alpha" => some ⟨[0x41, 0x5B, 0x61, 0x7B]⟩
  | "ascii" => some ⟨[0x00, 0x80]⟩
  | "blank" => some ⟨[0x09, 0x0A, 0x20, 0x21]⟩
  | "cntrl" => some ⟨[0x00, 0x20, 0x7F, 0x80]⟩
  | "digit" => some ⟨[0x30, 0x3A]⟩
  | "graph" => some ⟨[0x21, 0x7F]⟩
  | "lower" => some ⟨[0x61, 0x7B]⟩
  | "print" => some ⟨[0x20, 0x7F]⟩
  | "punct" => some ⟨[0x21, 0x30, 0x3A, 0x41, 0x5B, 0x61, 0x7B, 0x7F]⟩
  | "space" => some ⟨[0x09, 0x0E, 0x20, 0x21]⟩
  | "upper" => some ⟨[0x41, 0x5B]⟩
  | "word" => some ⟨[0x30, 0x3A, 0x41, 0x5B, 0x5F, 0x60, 0x61, 0x7B]⟩
  | "xdigit" => some ⟨[0x30, 0x3A, 0x41, 0x47, 0x61, 0x67]⟩
  | _ => none

end BnfParsing.Regex.ClassName
