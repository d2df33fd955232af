/-!
# Faults of a pattern

Why the text of a regular expression cannot be read.  Each constructor is one
cause, and `Fault.message` says it in words.
-/

namespace Chunking.Pattern

inductive Fault where
  | tooMuchNesting
  | tooLarge
  | openGroup
  | strayClose
  | lookAround
  | groupCut
  | unknownFlag
  | repeatedFlag
  | repeatedNegation
  | danglingNegation
  | flagsCut
  | emptyFlags
  | nameMissing
  | nameInvalid
  | nameCut
  | nameEmpty
  | nameRepeated
  | uncountedAlone
  | countedAlone
  | countedUnclosed
  | countedCut
  | countedCommaCut
  | countedMaxCut
  | countedNotClosed
  | countedReversed
  | decimalMissing
  | decimalInvalid
  | escapeCut
  | backreference
  | unicodeClass
  | unknownEscape
  | hexMissing
  | hexFixedCut
  | hexFixedDigit
  | hexFixedInvalid
  | hexBraceDigit
  | hexBraceCut
  | hexBraceEmpty
  | hexBraceInvalid
  | boundaryCut
  | boundaryUnclosed
  | boundaryUnknown
  | classUnclosed
  | classNegatedUnclosed
  | classDashUnclosed
  | classBracketUnclosed
  | classItemsUnclosed
  | classNested
  | classIntersection
  | classDifference
  | classSymmetricDifference
  | classEscape
  | rangeEnds
  | rangeReversed
deriving DecidableEq

def Fault.message : Fault → String
  | .tooMuchNesting => "pattern has too much nesting"
  | .tooLarge => "compiled regex exceeded size limit"
  | .openGroup => "found open group without closing ')'"
  | .strayClose => "found closing ')' without matching '('"
  | .lookAround => "look-around is not supported"
  | .groupCut => "expected closing ')', but got end of pattern"
  | .unknownFlag => "unrecognized inline flag"
  | .repeatedFlag => "duplicate inline flag is not allowed"
  | .repeatedNegation => "inline flag negation cannot be repeated"
  | .danglingNegation => "inline flags cannot end with negation directive"
  | .flagsCut => "expected ':' or ')' to end inline flags, but got end of pattern"
  | .emptyFlags => "empty flag directive '(?)' is not allowed"
  | .nameMissing => "expected capture group name, but got end of pattern"
  | .nameInvalid => "invalid group name"
  | .nameCut => "expected end of capture group name, but got end of pattern"
  | .nameEmpty => "empty capture group names are not allowed"
  | .nameRepeated => "duplicate capture group name"
  | .uncountedAlone =>
      "uncounted repetition operator must be applied to a sub-expression"
  | .countedAlone => "counted repetition operator must be applied to a sub-expression"
  | .countedUnclosed => "found unclosed counted repetition operator"
  | .countedCut => "found incomplete and unclosed counted repetition operator"
  | .countedCommaCut => "found counted repetition operator with a comma that is unclosed"
  | .countedMaxCut => "found counted repetition with min and max that is unclosed"
  | .countedNotClosed =>
      "expected closing brace for counted repetition, but got something else"
  | .countedReversed => "found counted repetition with a min bigger than its max"
  | .decimalMissing => "expected decimal number, but found no digits"
  | .decimalInvalid => "got invalid decimal number"
  | .escapeCut => "saw start of escape sequence, but saw end of pattern before it finished"
  | .backreference => "backreferences are not supported"
  | .unicodeClass => "Unicode character classes are not supported"
  | .unknownEscape => "unrecognized escape sequence"
  | .hexMissing => "expected hexadecimal number, but saw end of pattern first"
  | .hexFixedCut => "expected fixed length hexadecimal number, but saw end of pattern first"
  | .hexFixedDigit => "expected fixed length hexadecimal number, but got non-hex digit"
  | .hexFixedInvalid => "got invalid fixed length hexadecimal number"
  | .hexBraceDigit => "expected hexadecimal number in braces, but got non-hex digit"
  | .hexBraceCut => "expected hexadecimal number, but saw end of pattern before closing brace"
  | .hexBraceEmpty => "expected hexadecimal number in braces, but got no digits"
  | .hexBraceInvalid => "got invalid hexadecimal number in braces"
  | .boundaryCut => "found start of special word boundary or repetition without an end"
  | .boundaryUnclosed =>
      "special word boundary assertion is unclosed or has an invalid character"
  | .boundaryUnknown => "special word boundary assertion is unrecognized"
  | .classUnclosed => "found unclosed character class"
  | .classNegatedUnclosed => "negated character class has no closing bracket"
  | .classDashUnclosed =>
      "non-empty character class has no closing bracket after dash"
  | .classBracketUnclosed =>
      "character class begins with literal ']' but has no closing bracket"
  | .classItemsUnclosed => "non-empty character class has no closing bracket"
  | .classNested => "nested character classes are not supported"
  | .classIntersection => "character class intersection is not supported"
  | .classDifference => "character class difference is not supported"
  | .classSymmetricDifference => "character class symmetric difference is not supported"
  | .classEscape => "invalid escape sequence in character class"
  | .rangeEnds => "character class ranges must start and end with a single character"
  | .rangeReversed => "invalid range in character class"

end Chunking.Pattern
