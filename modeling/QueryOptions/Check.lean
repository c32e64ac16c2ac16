import QueryOptions.Context
import QueryOptions.Outline.Option

set_option autoImplicit false

namespace QueryOptions

inductive OutputFormat where
  | listing
  | json
  | prettyJson
deriving DecidableEq, Repr

namespace Outline

def print (format : OutputFormat) (outline : Outline) : String :=
  match format with
  | .listing => outline.listing 0
  | .json => outline.json.compact
  | .prettyJson => outline.json.pretty 0

end Outline

def withoutLineEnds (text : String) : String :=
  let isLineEnd (c : Char) : Bool := c == '\r' || c == '\n'
  String.ofList ((text.toList.reverse.dropWhile isLineEnd).reverse)

def check (settings : Settings) (option : QueryOption) (format : OutputFormat) (text : String) :
    Except ParseError String :=
  (parse settings option (withoutLineEnds text)).map fun parsed => parsed.outline.print format

namespace Token

def outline (token : Token) : Outline :=
  .record "Token"
    [("kind", .word token.kind.name), ("text", .text token.text), ("position", .nat token.position)]

def line (token : Token) : String :=
  let position := toString token.position
  let kind := token.kind.name
  String.ofList (List.replicate (5 - position.length) ' ') ++ position ++ "  " ++ kind ++
    String.ofList (List.replicate (22 - kind.length) ' ') ++ " " ++ token.text ++ "\n"

end Token

def listTokens (text : String) (dialect : Dialect) : Except ParseError String :=
  (tokenize (withoutLineEnds text) dialect 0).map fun tokens =>
    String.join (tokens.map Token.line)

def tokensJson (text : String) (dialect : Dialect) : Except ParseError String :=
  (tokenize (withoutLineEnds text) dialect 0).map fun tokens =>
    (Outline.list (tokens.map Token.outline)).json.compact

end QueryOptions
