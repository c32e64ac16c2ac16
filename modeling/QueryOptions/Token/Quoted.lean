import QueryOptions.Text.Basic

set_option autoImplicit false

namespace QueryOptions

inductive QuoteEnd where
  | closed
  | unclosed
  | badEscape (sequence : List Char)
deriving DecidableEq

structure QuoteScan where
  ending : QuoteEnd
  taken : List Char
  rest : List Char
deriving DecidableEq

namespace QuoteScan

def after (front : List Char) (scan : QuoteScan) : QuoteScan :=
  { scan with taken := front ++ scan.taken }

end QuoteScan

def isSimpleEscape (c : Char) : Bool :=
  c == '"' || c == '\\' || c == '/' || c == 'b' || c == 'f' || c == 'n' || c == 'r' || c == 't'

def startsEscape (quote c : Char) : Bool := c == '\\' && quote == '"'

def scanString (quote : Char) : List Char → QuoteScan
  | [] => ⟨.unclosed, [], []⟩
  | c :: rest =>
      if c = quote then
        match rest with
        | d :: after =>
            if d = quote then (scanString quote after).after [c, d] else ⟨.closed, [c], d :: after⟩
        | [] => ⟨.closed, [c], []⟩
      else if startsEscape quote c then
        match rest with
        | [] => ⟨.unclosed, [c], []⟩
        | e :: after =>
            if isSimpleEscape e then (scanString quote after).after [c, e]
            else if e = 'u' then
              match after with
              | h₁ :: h₂ :: h₃ :: h₄ :: tail =>
                  if [h₁, h₂, h₃, h₄].all Text.isHexDigit then
                    (scanString quote tail).after [c, e, h₁, h₂, h₃, h₄]
                  else
                    let digits := [h₁, h₂, h₃, h₄].takeWhile Text.isHexDigit
                    ⟨.badEscape (c :: e :: digits), c :: e :: digits,
                      (h₁ :: h₂ :: h₃ :: h₄ :: tail).drop digits.length⟩
              | short =>
                  let digits := short.takeWhile Text.isHexDigit
                  ⟨.badEscape (c :: e :: digits), c :: e :: digits, short.drop digits.length⟩
            else ⟨.badEscape [c, e], [c, e], after⟩
      else (scanString quote rest).after [c]

def scanPhrase : List Char → QuoteScan
  | [] => ⟨.unclosed, [], []⟩
  | c :: rest =>
      if c = '"' then ⟨.closed, [c], rest⟩
      else if c = '\\' then
        match rest with
        | [] => ⟨.unclosed, [c], []⟩
        | e :: after =>
            if e = '"' ∨ e = '\\' then (scanPhrase after).after [c, e]
            else ⟨.badEscape [c, e], [c, e], after⟩
      else (scanPhrase rest).after [c]

def unquote (text : String) : String :=
  match text.toList with
  | '"' :: inner =>
      if inner.getLast? = some '"' then String.ofList (unescape inner.dropLast) else text
  | _ => text
where
  unescape : List Char → List Char
    | [] => []
    | '\\' :: c :: rest => c :: unescape rest
    | c :: rest => if c = '\\' then unescape rest else c :: unescape rest

end QueryOptions
