import QueryOptions.Text.Basic

set_option autoImplicit false

namespace QueryOptions

inductive TokenKind where
  | unknown
  | finish
  | whitespace
  | openParen
  | closeParen
  | openBracket
  | closeBracket
  | comma
  | dot
  | slash
  | colon
  | semicolon
  | ampersand
  | dollar
  | percent
  | question
  | star
  | atSign
  | equal
  | minus
  | integerLiteral
  | int64Literal
  | singleLiteral
  | doubleLiteral
  | decimalLiteral
  | booleanLiteral
  | nullLiteral
  | stringLiteral
  | guidLiteral
  | dateOnlyLiteral
  | timeOnlyLiteral
  | dateTimeOffsetLiteral
  | durationLiteral
  | binaryLiteral
  | geographyLiteral
  | geometryLiteral
  | quotedLiteral
  | identifier
  | annotationIdentifier
deriving DecidableEq, Repr

namespace TokenKind

def isLiteral : TokenKind → Bool
  | integerLiteral | int64Literal | singleLiteral | doubleLiteral | decimalLiteral
  | booleanLiteral | nullLiteral | stringLiteral | guidLiteral | dateOnlyLiteral
  | timeOnlyLiteral | dateTimeOffsetLiteral | durationLiteral | binaryLiteral
  | geographyLiteral | geometryLiteral | quotedLiteral => true
  | _ => false

def name : TokenKind → String
  | unknown => "Unknown"
  | finish => "End"
  | whitespace => "Whitespace"
  | openParen => "OpenParen"
  | closeParen => "CloseParen"
  | openBracket => "OpenBracket"
  | closeBracket => "CloseBracket"
  | comma => "Comma"
  | dot => "Dot"
  | slash => "Slash"
  | colon => "Colon"
  | semicolon => "Semicolon"
  | ampersand => "Ampersand"
  | dollar => "Dollar"
  | percent => "Percent"
  | question => "Question"
  | star => "Star"
  | atSign => "At"
  | equal => "Equal"
  | minus => "Minus"
  | integerLiteral => "IntegerLiteral"
  | int64Literal => "Int64Literal"
  | singleLiteral => "SingleLiteral"
  | doubleLiteral => "DoubleLiteral"
  | decimalLiteral => "DecimalLiteral"
  | booleanLiteral => "BooleanLiteral"
  | nullLiteral => "NullLiteral"
  | stringLiteral => "StringLiteral"
  | guidLiteral => "GuidLiteral"
  | dateOnlyLiteral => "DateOnlyLiteral"
  | timeOnlyLiteral => "TimeOnlyLiteral"
  | dateTimeOffsetLiteral => "DateTimeOffsetLiteral"
  | durationLiteral => "DurationLiteral"
  | binaryLiteral => "BinaryLiteral"
  | geographyLiteral => "GeographyLiteral"
  | geometryLiteral => "GeometryLiteral"
  | quotedLiteral => "QuotedLiteral"
  | identifier => "Identifier"
  | annotationIdentifier => "AnnotationIdentifier"

def all : List TokenKind := [
  unknown, finish, whitespace, openParen, closeParen, openBracket, closeBracket, comma, dot, slash,
  colon, semicolon, ampersand, dollar, percent, question, star, atSign, equal, minus,
  integerLiteral, int64Literal, singleLiteral, doubleLiteral, decimalLiteral, booleanLiteral,
  nullLiteral, stringLiteral, guidLiteral, dateOnlyLiteral, timeOnlyLiteral, dateTimeOffsetLiteral,
  durationLiteral, binaryLiteral, geographyLiteral, geometryLiteral, quotedLiteral, identifier,
  annotationIdentifier]

def ofName? (name : String) : Option TokenKind := all.find? fun kind => kind.name == name

end TokenKind

structure Token where
  kind : TokenKind
  text : String
  position : Nat
deriving DecidableEq, Repr

namespace Token

def unread (position : Nat) : Token := ⟨.unknown, "", position⟩

def isKeyword (ignoreCase : Bool) (keyword : String) (token : Token) : Bool :=
  token.kind == .identifier && Text.sameWord ignoreCase token.text keyword

def describe (token : Token) : String :=
  if token.kind = .finish then "end of input" else token.text

end Token

end QueryOptions
