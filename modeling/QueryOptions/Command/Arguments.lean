/-!
Command-line arguments: flags with and without values, and operands. A flag goes by its long name
after two dashes, or by a letter after one; letters may be run together. Its value follows after an
equals sign, as the next argument, or directly after the letter. An argument with a dash in front is
never a value, except the dash alone; after `--` every argument is an operand.
-/

set_option autoImplicit false

namespace QueryOptions.Command

structure Flag where
  name : String
  letter : Option Char := none
  takesValue : Bool := false
deriving DecidableEq, Repr

structure Arguments where
  given : List (String × Option String) := []
  operands : List String := []
deriving DecidableEq, Repr

namespace Arguments

def withFlag? (arguments : Arguments) (name : String) (value : Option String) : Option Arguments :=
  if (arguments.given.map Prod.fst).contains name then none
  else some { arguments with given := (name, value) :: arguments.given }

def withOperand (arguments : Arguments) (operand : String) : Arguments :=
  { arguments with operands := arguments.operands ++ [operand] }

def has (arguments : Arguments) (name : String) : Bool :=
  (arguments.given.map Prod.fst).contains name

def value? (arguments : Arguments) (name : String) : Option String :=
  (arguments.given.lookup name).bind id

-- The arguments after a run of letters, and the flag that still needs the next argument for
-- its value.
def withLetters? (flags : List Flag) (arguments : Arguments) :
    List Char → Option (Arguments × Option Flag)
  | [] => some (arguments, none)
  | letter :: rest => do
      let flag ← flags.find? fun flag => flag.letter == some letter
      if flag.takesValue then
        match rest with
        | [] => some (arguments, some flag)
        | '=' :: value =>
            (arguments.withFlag? flag.name (some (String.ofList value))).map (·, none)
        | value => (arguments.withFlag? flag.name (some (String.ofList value))).map (·, none)
      else withLetters? flags (← arguments.withFlag? flag.name none) rest

def withName? (flags : List Flag) (arguments : Arguments) (text : List Char) :
    Option (Arguments × Option Flag) := do
  let name := text.takeWhile (· != '=')
  let flag ← flags.find? fun flag => flag.name.toList == name
  match text.drop name.length with
  | [] =>
      if flag.takesValue then some (arguments, some flag)
      else (arguments.withFlag? flag.name none).map (·, none)
  | _ :: value =>
      if flag.takesValue then
        (arguments.withFlag? flag.name (some (String.ofList value))).map (·, none)
      else none

def isValue (text : String) : Bool := text == "-" || text.toList.head? != some '-'

def sort? (flags : List Flag) (arguments : Arguments) : List String → Option Arguments
  | [] => some arguments
  | text :: rest =>
      if text = "--" then some (rest.foldl withOperand arguments)
      else if isValue text then sort? flags (arguments.withOperand text) rest
      else
        let read := match text.toList with
          | '-' :: '-' :: name => arguments.withName? flags name
          | _ :: letters => arguments.withLetters? flags letters
          | [] => none
        match read, rest with
        | some (arguments, none), rest => sort? flags arguments rest
        | some (arguments, some flag), value :: rest =>
            if isValue value then
              (arguments.withFlag? flag.name (some value)).bind fun arguments =>
                sort? flags arguments rest
            else none
        | _, _ => none

end Arguments

end QueryOptions.Command
