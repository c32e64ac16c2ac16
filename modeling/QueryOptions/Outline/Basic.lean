import QueryOptions.Json.Write
import QueryOptions.Text.Display

set_option autoImplicit false

namespace QueryOptions

inductive Outline where
  | text (value : String)
  | nat (value : Nat)
  | bool (value : Bool)
  | word (name : String)
  | wrapped (name : String) (content : Outline)
  | absent
  | present (content : Outline)
  | list (items : List Outline)
  | record (name : String) (fields : List (String × Outline))
  -- A case of a sum that holds a record. In JSON the fields follow the name of the case
  -- under `key`; in a listing the record may have a name of its own.
  | tagged (key name : String) (record : Option String) (fields : List (String × Outline))
  | labelled (key name contentKey : String) (content : Outline)

namespace Outline

mutual

def json : Outline → Json
  | .text value => .text value
  | .nat value => .nat value
  | .bool value => .bool value
  | .word name => .text name
  | .wrapped name content => .object [(name, json content)]
  | .absent => .null
  | .present content => json content
  | .list items => .array (jsonItems items)
  | .record _ fields => .object (jsonFields fields)
  | .tagged key name _ fields => .object ((key, .text name) :: jsonFields fields)
  | .labelled key name contentKey content =>
      .object [(key, .text name), (contentKey, json content)]

def jsonItems : List Outline → List Json
  | [] => []
  | item :: rest => json item :: jsonItems rest

def jsonFields : List (String × Outline) → List (String × Json)
  | [] => []
  | (name, value) :: rest => (name, json value) :: jsonFields rest

end

def lineBreak (level : Nat) : String := String.ofList ('\n' :: List.replicate (4 * level) ' ')

def inParens (level : Nat) (name part : String) : String :=
  name ++ "(" ++ lineBreak (level + 1) ++ part ++ "," ++ lineBreak level ++ ")"

def inBraces (level : Nat) (name parts : String) : String :=
  name ++ " \x7b" ++ parts ++ lineBreak level ++ "\x7d"

mutual

def listing (level : Nat) : Outline → String
  | .text value => Text.display value
  | .nat value => toString value
  | .bool true => "true"
  | .bool false => "false"
  | .word name => name
  | .wrapped name content => inParens level name (listing (level + 1) content)
  | .absent => "None"
  | .present content => inParens level "Some" (listing (level + 1) content)
  | .list [] => "[]"
  | .list (first :: rest) =>
      "[" ++ lineBreak (level + 1) ++ listing (level + 1) first ++ "," ++
        listingItems (level + 1) rest ++ lineBreak level ++ "]"
  | .record name fields => inBraces level name (listingFields (level + 1) fields)
  | .tagged _ name (some title) fields =>
      inParens level name (inBraces (level + 1) title (listingFields (level + 2) fields))
  | .tagged _ name none fields => inBraces level name (listingFields (level + 1) fields)
  | .labelled _ name _ content => inParens level name (listing (level + 1) content)

def listingItems (level : Nat) : List Outline → String
  | [] => ""
  | item :: rest => lineBreak level ++ listing level item ++ "," ++ listingItems level rest

def listingFields (level : Nat) : List (String × Outline) → String
  | [] => ""
  | (name, value) :: rest =>
      lineBreak level ++ name ++ ": " ++ listing level value ++ "," ++ listingFields level rest

end

def ofOption {α : Type} (outline : α → Outline) : Option α → Outline
  | none => .absent
  | some value => .present (outline value)

end Outline

end QueryOptions
