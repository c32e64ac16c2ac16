import QueryOptions.Text.Basic

set_option autoImplicit false

namespace QueryOptions

namespace Guid

def afterGroup? (size : Nat) (text : List Char) : Option (List Char) :=
  let group := text.take size
  if group.length = size ∧ group.all Text.isHexDigit then some (text.drop size) else none

def afterDash? : List Char → Option (List Char)
  | '-' :: rest => some rest
  | _ => none

def isGuid (text : List Char) : Bool :=
  let rest := do
    let text ← afterDash? (← afterGroup? 8 text)
    let text ← afterDash? (← afterGroup? 4 text)
    let text ← afterDash? (← afterGroup? 4 text)
    let text ← afterDash? (← afterGroup? 4 text)
    afterGroup? 12 text
  rest == some []

end Guid

end QueryOptions
