set_option autoImplicit false

namespace QueryOptions

inductive PathFault where
  | tooLong (limit : Nat)
  | terminalContinued (segment : String)
  | wildcardContinued
  | wildcardFollowed
  | wildcardNotFirst
  | namespaceWildcard
  | systemSegment (segment : String)
deriving DecidableEq, Repr

namespace PathFault

def message : PathFault → String
  | tooLong limit => s!"path exceeds the maximum of {limit} segments"
  | terminalContinued segment => s!"'{segment}' must be the last segment"
  | wildcardContinued => "'*' cannot be followed by '/'"
  | wildcardFollowed => "'*' can only be followed by '$ref'"
  | wildcardNotFirst => "'*' must be the first segment"
  | namespaceWildcard => "namespace wildcards are not allowed"
  | systemSegment segment => s!"segment '{segment}' is not allowed here"

end PathFault

inductive ParseError where
  | invalidCharacter (character : Char) (position : Nat)
  | unterminatedString (position : Nat)
  | invalidEscape (sequence : String) (position : Nat)
  -- A number that the type asked for, or every type, fails to hold.
  | invalidNumeric (text : String) (position : Nat)
  | digitExpected (position : Nat)
  | typedNull (position : Nat)
  | expectedToken (expected found : String) (position : Nat)
  | keywordExpected (keyword : String) (position : Nat)
  | expressionExpected (position : Nat)
  | unexpectedToken (token : String) (position : Nat)
  | invalidPath (fault : PathFault) (position : Nat)
  | emptyOptionList (position : Nat)
  | unknownOption (name : String) (position : Nat)
  | duplicateOption (name : String) (position : Nat)
  | invalidOptionValue (option value : String) (position : Nat)
  | unsupportedTransformation (name : String) (position : Nat)
  | depthExceeded (maxDepth : Nat)
  | depthMismatch
  | duplicateVariable (name : String)
deriving DecidableEq, Repr

namespace ParseError

def message : ParseError → String
  | invalidCharacter character position =>
      s!"Invalid character '{character}' at position {position}"
  | unterminatedString position => s!"Unterminated string literal starting at position {position}"
  | invalidEscape sequence position =>
      s!"Invalid escape sequence '{sequence}' at position {position}"
  | invalidNumeric text position => s!"Invalid numeric string '{text}' at position {position}"
  | digitExpected position => s!"Digit expected at position {position}"
  | typedNull position => s!"Typed null literals are not supported (position {position})"
  | expectedToken expected found position =>
      s!"Expected {expected} at position {position}, found '{found}'"
  | keywordExpected keyword position => s!"Keyword '{keyword}' expected at position {position}"
  | expressionExpected position => s!"Expression expected at position {position}"
  | unexpectedToken token position => s!"Syntax error at position {position}: unexpected '{token}'"
  | invalidPath fault position =>
      s!"Invalid path at position {position}: " ++ fault.message
  | emptyOptionList position => s!"Empty option list at position {position}"
  | unknownOption name position => s!"Unknown query option '{name}' at position {position}"
  | duplicateOption name position =>
      s!"Query option '{name}' specified more than once (position {position})"
  | invalidOptionValue option value position =>
      s!"Invalid value '{value}' for query option '{option}' at position {position}"
  | unsupportedTransformation name position =>
      s!"Unsupported transformation '{name}' at position {position}"
  | depthExceeded maxDepth =>
      s!"Expression too deep: recursion exceeded the maximum depth of {maxDepth}"
  | depthMismatch => "Recursion depth accounting mismatch"
  | duplicateVariable name => s!"Range variable '{name}' is already declared"

def position : ParseError → Option Nat
  | invalidCharacter _ position | unterminatedString position | invalidEscape _ position
  | invalidNumeric _ position | digitExpected position | typedNull position
  | expectedToken _ _ position | keywordExpected _ position | expressionExpected position
  | unexpectedToken _ position | invalidPath _ position | emptyOptionList position
  | unknownOption _ position | duplicateOption _ position | invalidOptionValue _ _ position
  | unsupportedTransformation _ position => some position
  | depthExceeded _ | depthMismatch | duplicateVariable _ => none

def shift (bytes : Nat) : ParseError → ParseError
  | invalidCharacter character position => invalidCharacter character (bytes + position)
  | unterminatedString position => unterminatedString (bytes + position)
  | invalidEscape sequence position => invalidEscape sequence (bytes + position)
  | invalidNumeric text position => invalidNumeric text (bytes + position)
  | digitExpected position => digitExpected (bytes + position)
  | typedNull position => typedNull (bytes + position)
  | expectedToken expected found position => expectedToken expected found (bytes + position)
  | keywordExpected keyword position => keywordExpected keyword (bytes + position)
  | expressionExpected position => expressionExpected (bytes + position)
  | unexpectedToken token position => unexpectedToken token (bytes + position)
  | invalidPath fault position => invalidPath fault (bytes + position)
  | emptyOptionList position => emptyOptionList (bytes + position)
  | unknownOption name position => unknownOption name (bytes + position)
  | duplicateOption name position => duplicateOption name (bytes + position)
  | invalidOptionValue option value position => invalidOptionValue option value (bytes + position)
  | unsupportedTransformation name position => unsupportedTransformation name (bytes + position)
  | depthExceeded maxDepth => depthExceeded maxDepth
  | depthMismatch => depthMismatch
  | duplicateVariable name => duplicateVariable name

end ParseError

end QueryOptions
