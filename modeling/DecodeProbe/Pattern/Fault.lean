import DecodeProbe.Pattern.Excerpt

/-!
# Faults of a pattern

Why a text is no pattern.  A fault in the text is shown under the text itself;
a pattern that is well formed may still be too large or ask for what is not
known.
-/

namespace DecodeProbe

inductive Fault where
  | classEscape
  | classRangeReversed
  | classRangeBoundary
  | classUnclosed
  | decimalInvalid
  | hexEmpty
  | hexNoScalar
  | hexDigit
  | escapeCutShort
  | escapeUnknown
  | flagNegationDangling
  | flagTwice
  | flagNegationTwice
  | flagMissing
  | flagUnknown
  | groupNameTwice
  | groupNameEmpty
  | groupNameInvalid
  | groupNameUnclosed
  | groupUnclosed
  | groupUnopened
  | nestedTooDeep (limit : Nat)
  | countReversed
  | countEmpty
  | countUnclosed
  | nothingToRepeat
  | wordEdgeUnclosed
  | wordEdgeUnknown
  | wordEdgeCutShort
  | propertyInvalid
  | backreference
  | lookAround
  | invalidUtf8
  | beyondAscii
  | propertyUnknown
  | propertyValueUnknown
  | shorthandUnavailable
  | caseUnavailable
  deriving DecidableEq, Repr

def Fault.message : Fault → String
  | .classEscape => "invalid escape sequence found in character class"
  | .classRangeReversed => "invalid character class range, the start must be <= the end"
  | .classRangeBoundary => "invalid range boundary, must be a literal"
  | .classUnclosed => "unclosed character class"
  | .decimalInvalid => "decimal literal invalid"
  | .hexEmpty => "hexadecimal literal empty"
  | .hexNoScalar => "hexadecimal literal is not a Unicode scalar value"
  | .hexDigit => "invalid hexadecimal digit"
  | .escapeCutShort => "incomplete escape sequence, reached end of pattern prematurely"
  | .escapeUnknown => "unrecognized escape sequence"
  | .flagNegationDangling => "dangling flag negation operator"
  | .flagTwice => "duplicate flag"
  | .flagNegationTwice => "flag negation operator repeated"
  | .flagMissing => "expected flag but got end of regex"
  | .flagUnknown => "unrecognized flag"
  | .groupNameTwice => "duplicate capture group name"
  | .groupNameEmpty => "empty capture group name"
  | .groupNameInvalid => "invalid capture group character"
  | .groupNameUnclosed => "unclosed capture group name"
  | .groupUnclosed => "unclosed group"
  | .groupUnopened => "unopened group"
  | .nestedTooDeep limit =>
      s!"exceed the maximum number of nested parentheses/brackets ({Text.decimal limit})"
  | .countReversed => "invalid repetition count range, the start must be <= the end"
  | .countEmpty => "repetition quantifier expects a valid decimal"
  | .countUnclosed => "unclosed counted repetition"
  | .nothingToRepeat => "repetition operator missing expression"
  | .wordEdgeUnclosed =>
      "special word boundary assertion is either unclosed or contains an invalid character"
  | .wordEdgeUnknown =>
      "unrecognized special word boundary assertion, " ++
        "valid choices are: start, end, start-half or end-half"
  | .wordEdgeCutShort =>
      "found either the beginning of a special word boundary or a bounded repetition " ++
        "on a \\b with an opening brace, but no closing brace"
  | .propertyInvalid => "invalid Unicode character class"
  | .backreference => "backreferences are not supported"
  | .lookAround => "look-around, including look-ahead and look-behind, is not supported"
  | .invalidUtf8 => "pattern can match invalid UTF-8"
  | .beyondAscii => "Unicode not allowed here"
  | .propertyUnknown => "Unicode property not found"
  | .propertyValueUnknown => "Unicode property value not found"
  | .shorthandUnavailable =>
      "Unicode-aware Perl class not found (make sure the unicode-perl feature is enabled)"
  | .caseUnavailable =>
      "Unicode-aware case insensitivity matching is not available " ++
        "(make sure the unicode-case feature is enabled)"

/-- A fault and where it is; some faults also point to an earlier part of the pattern. -/
structure Complaint where
  fault : Fault
  span : Span
  earlier : Option Span := none
  deriving DecidableEq, Repr

inductive PatternError where
  | malformed (complaint : Complaint)
  | tooLarge (limit : Nat)
  | unbuildable
  deriving DecidableEq, Repr

def PatternError.text (pattern : List Char) : PatternError → String
  | .malformed complaint =>
      "regex parse error:\n" ++
        Excerpt.text pattern (complaint.span :: complaint.earlier.toList) ++
        "error: " ++ complaint.fault.message
  | .tooLarge limit => s!"Compiled regex exceeds size limit of {Text.decimal limit} bytes."
  | .unbuildable => "error building NFA"

example : (PatternError.malformed ⟨.groupUnclosed, ⟨{}, ⟨1, 1, 2⟩⟩, none⟩).text ['('] =
    "regex parse error:\n    (\n    ^\nerror: unclosed group" := by decide +kernel

end DecodeProbe
