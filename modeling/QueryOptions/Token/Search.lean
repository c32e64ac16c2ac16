import QueryOptions.Text.Basic
import QueryOptions.Token.Scan

set_option autoImplicit false

namespace QueryOptions.Search

def isWordChar (c : Char) : Bool := !(Text.isBlank c || c == '(' || c == ')' || c == '"')

def isOperator (word : String) : Bool :=
  Text.sameFolded word "AND" || Text.sameFolded word "OR" || Text.sameFolded word "NOT"

def scan : List Char → Scan
  | [] => .token .finish [] []
  | c :: rest =>
      if c = '(' then .token .openParen [c] rest
      else if c = ')' then .token .closeParen [c] rest
      else if c = '"' then .quoted .stringLiteral [] c (scanPhrase rest)
      else
        let word := c :: rest.takeWhile isWordChar
        let kind := if isOperator (String.ofList word) then .identifier else .stringLiteral
        .token kind word (rest.dropWhile isWordChar)

end QueryOptions.Search
