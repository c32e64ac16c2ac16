import QueryOptions.Error
import QueryOptions.Text.Width
import QueryOptions.Token.Basic
import QueryOptions.Token.Quoted

set_option autoImplicit false

namespace QueryOptions

-- The error of quoted text that is not closed properly; `front` stands before its opening
-- quote, and the bytes are counted from there.
def QuoteScan.fault? (front : List Char) (quote : Char) (scan : QuoteScan) : Option ParseError :=
  match scan.ending with
  | .closed => none
  | .unclosed => some (.unterminatedString (Text.byteLength front))
  | .badEscape sequence =>
      some (.invalidEscape (String.ofList sequence)
        (Text.byteLength (front ++ quote :: scan.taken) - Text.byteLength sequence))

structure Scan where
  outcome : Except ParseError TokenKind
  taken : List Char
  rest : List Char

namespace Scan

def token (kind : TokenKind) (taken rest : List Char) : Scan := ⟨.ok kind, taken, rest⟩

def fault (error : ParseError) (taken rest : List Char) : Scan := ⟨.error error, taken, rest⟩

def quoted (kind : TokenKind) (front : List Char) (quote : Char) (scan : QuoteScan) : Scan :=
  match scan.fault? front quote with
  | none => token kind (front ++ quote :: scan.taken) scan.rest
  | some error => fault error (front ++ quote :: scan.taken) scan.rest

end Scan

end QueryOptions
