import QueryOptions.Json.Basic

set_option autoImplicit false

namespace QueryOptions.Json

def quoted (written : String) : String := "\"" ++ written ++ "\""

mutual

def compact : Json → String
  | .null => "null"
  | .bool true => "true"
  | .bool false => "false"
  | .number written => written
  | .string written => quoted written
  | .array elements => "[" ++ compactElements elements ++ "]"
  | .object members => "\x7b" ++ compactMembers members ++ "\x7d"

def compactElements : List Json → String
  | [] => ""
  | [element] => compact element
  | element :: rest => compact element ++ "," ++ compactElements rest

def compactMembers : List (String × Json) → String
  | [] => ""
  | [(name, value)] => quoted name ++ ":" ++ compact value
  | (name, value) :: rest => quoted name ++ ":" ++ compact value ++ "," ++ compactMembers rest

end

def lineBreak (level : Nat) : String := String.ofList ('\n' :: List.replicate (2 * level) ' ')

mutual

def pretty (level : Nat) : Json → String
  | .null => "null"
  | .bool true => "true"
  | .bool false => "false"
  | .number written => written
  | .string written => quoted written
  | .array [] => "[]"
  | .array (first :: rest) =>
      "[" ++ lineBreak (level + 1) ++ pretty (level + 1) first ++
        prettyElements (level + 1) rest ++ lineBreak level ++ "]"
  | .object [] => "\x7b\x7d"
  | .object ((name, value) :: rest) =>
      "\x7b" ++ lineBreak (level + 1) ++ quoted name ++ ": " ++ pretty (level + 1) value ++
        prettyMembers (level + 1) rest ++ lineBreak level ++ "\x7d"

def prettyElements (level : Nat) : List Json → String
  | [] => ""
  | element :: rest =>
      "," ++ lineBreak level ++ pretty level element ++ prettyElements level rest

def prettyMembers (level : Nat) : List (String × Json) → String
  | [] => ""
  | (name, value) :: rest =>
      "," ++ lineBreak level ++ quoted name ++ ": " ++ pretty level value ++
        prettyMembers level rest

end

end QueryOptions.Json
