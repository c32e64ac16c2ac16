import QueryOptions.Item.Basic
import QueryOptions.Parse

set_option autoImplicit false

namespace QueryOptions.Items

open Parse

def isSystemSegment (settings : Settings) (kind : ItemKind) (segment : String) : Bool :=
  segment == "$count" ||
    (segment == "$ref" && (kind == .expand || settings.allowRefInSelect))

def isNamespaceWildcard (segment : String) : Bool := ['*', '.'].isPrefixOf segment.toList.reverse

def expandFault? (last : Option String) (segment : String) : Option PathFault :=
  if last = some "*" ∧ segment ≠ "$ref" then some .wildcardFollowed
  else if segment = "*" ∧ last.isSome then some .wildcardNotFirst
  else if isNamespaceWildcard segment then some .namespaceWildcard
  else none

def slashFault? (kind : ItemKind) (segment : String) : Option PathFault :=
  if segment = "$ref" ∨ segment = "$count" then some (.terminalContinued segment)
  else if segment = "*" ∧ kind = .select then some .wildcardContinued
  else none

def refuse (fault : Option PathFault) (position : Nat) : Parse Unit :=
  match fault with
  | some fault => throw (.invalidPath fault position)
  | none => pure ()

def segmentName (settings : Settings) (kind : ItemKind) : Parse String := do
  let token ← current
  if token.kind = .identifier ∧ token.text.toList.head? = some '$' then
    if isSystemSegment settings kind token.text then
      advance
      pure token.text
    else throw (.invalidPath (.systemSegment token.text) token.position)
  else dottedName true

def segment (settings : Settings) (kind : ItemKind) (count : Nat) (last : Option String) :
    Parse String := do
  let position := (← current).position
  let segment ← segmentName settings kind
  if kind = .expand then refuse (expandFault? last segment) position
  if settings.maxPathLength < count + 1 then
    throw (.invalidPath (.tooLong settings.maxPathLength) position)
  pure segment

def segments (settings : Settings) (kind : ItemKind) :
    Nat → Nat → Option String → Parse (List String)
  | 0, _, _ => pure []
  | fuel + 1, count, last => do
      let first ← segment settings kind count last
      if ← atKind .slash then
        refuse (slashFault? kind first) (← current).position
        advance
        let rest ← segments settings kind fuel (count + 1) (some first)
        pure (first :: rest)
      else pure [first]

-- A whole path. Every segment takes a character at least, the first one the current token.
def path (settings : Settings) (kind : ItemKind) : Parse (List String) := do
  segments settings kind ((← get).cursor.rest.length + 1) 0 none

end QueryOptions.Items
