import QueryOptions.Json.Read
import QueryOptions.Settings.Basic

set_option autoImplicit false

namespace QueryOptions.Settings

def countOf? : Json → Option Nat
  | .number written => if written.toList.all Char.isDigit then unsigned? written.toList else none
  | _ => none

def boolOf? : Json → Option Bool
  | .bool value => some value
  | _ => none

def textsOf? : Json → Option (List String)
  | .array elements => elements.mapM Json.text?
  | _ => none

def fieldNames : List String := [
  "max_depth", "case_insensitive", "allow_no_dollar_prefix", "enable_ref_in_select",
  "max_path_length", "custom_operators"]

def withField? (settings : Settings) (name : String) (value : Json) : Option Settings :=
  if name = "max_depth" then
    (countOf? value).map fun count => { settings with maxDepth := count }
  else if name = "case_insensitive" then
    (boolOf? value).map fun flag => { settings with ignoreCase := flag }
  else if name = "allow_no_dollar_prefix" then
    (boolOf? value).map fun flag => { settings with allowBareNames := flag }
  else if name = "enable_ref_in_select" then
    (boolOf? value).map fun flag => { settings with allowRefInSelect := flag }
  else if name = "max_path_length" then
    (countOf? value).map fun count => { settings with maxPathLength := count }
  else if name = "custom_operators" then
    (textsOf? value).map fun texts => { settings with customOperators := texts }
  else none

def withFields? (settings : Settings) : List (String × Json) → Option Settings
  | [] => some settings
  | (name, value) :: rest => (settings.withField? name value).bind (·.withFields? rest)

def namedMember? (entry : String × Json) : Option (String × Json) :=
  (Json.unquoted? entry.1).map fun name => (name, entry.2)

def ofJson? : Json → Option Settings
  | .object members => do
      let named ← members.mapM namedMember?
      let known := named.filter fun entry => fieldNames.contains entry.1
      if (known.map Prod.fst).Nodup then ({} : Settings).withFields? known else none
  | .array elements =>
      if elements.length ≤ fieldNames.length then
        ({} : Settings).withFields? (fieldNames.zip elements)
      else none
  | _ => none

def decode? (text : String) : Option Settings := (Json.parse? text).bind ofJson?

end QueryOptions.Settings
