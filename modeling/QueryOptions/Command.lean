import QueryOptions.Check
import QueryOptions.Command.Arguments
import QueryOptions.Manual
import QueryOptions.Settings.Decode

set_option autoImplicit false

namespace QueryOptions

inductive FileFault where
  | missing
  | notDirectory
  | isDirectory
  | nameTooLong
  | notText
  | other (description : String)
deriving DecidableEq, Repr

namespace FileFault

def numbered (description : String) (code : Nat) : String :=
  s!"{description} (os error {code})"

def message : FileFault → String
  | missing => numbered "No such file or directory" 2
  | notDirectory => numbered "Not a directory" 20
  | isDirectory => numbered "Is a directory" 21
  | nameTooLong => numbered "File name too long" 36
  | notText => "stream did not contain valid UTF-8"
  | other description => description

end FileFault

inductive CommandError where
  | parse (error : ParseError)
  | settings
  | reading (fault : FileFault)
  | noInput
  | unknownCategory (name : String)
deriving DecidableEq, Repr

namespace CommandError

def message : CommandError → String
  | parse error => "Parse error: " ++ error.message
  | settings => "Invalid JSON: not the settings of a parser"
  | reading fault => "IO error: " ++ fault.message
  | noInput => "No input provided. Pass the option text as an argument or pipe it to stdin."
  | unknownCategory name =>
      s!"Unknown category: '{name}'\nRun 'qopt docs' to see available categories."

end CommandError

def manualPage (category : String) : Except CommandError String :=
  match Manual.Topic.ofName? category with
  | some topic => .ok topic.page
  | none => .error (.unknownCategory category)

structure ParseRequest where
  option : QueryOption
  text : Option String
  format : OutputFormat
  settingsFile : Option String
  maxDepth : Option Nat
  ignoreCase : Bool
  allowBareNames : Bool
deriving DecidableEq, Repr

inductive Command where
  | parse (request : ParseRequest)
  | tokens (text : Option String) (dialect : Dialect) (json : Bool)
  | docs
  | doc (category : String)
deriving DecidableEq, Repr

structure RunInput where
  settingsFile : Except FileFault String
  text : Option (Except FileFault String)

namespace Command

def parseFlags : List Flag := [
  { name := "json" }, { name := "pretty", letter := some 'p' },
  { name := "config", letter := some 'c', takesValue := true },
  { name := "max-depth", takesValue := true }, { name := "case-insensitive" },
  { name := "no-dollar-prefix" }]

def tokensFlags : List Flag := [{ name := "search" }, { name := "json" }]

def operand? (arguments : Arguments) : Option (Option String) :=
  match arguments.operands with
  | [] => some none
  | [text] => some (some text)
  | _ => none

def valueOf? {α : Type} (read : String → Option α) : Option String → Option (Option α)
  | none => some none
  | some text => (read text).map some

def fileName? (text : String) : Option String := if text.isEmpty then none else some text

def formatOf (arguments : Arguments) : OutputFormat :=
  if arguments.has "pretty" then .prettyJson
  else if arguments.has "json" then .json
  else .listing

def parseRequest? (option : QueryOption) (texts : List String) : Option ParseRequest := do
  let arguments ← Arguments.sort? parseFlags {} texts
  let text ← operand? arguments
  let settingsFile ← valueOf? fileName? (arguments.value? "config")
  let maxDepth ← valueOf? (fun text => unsigned? text.toList) (arguments.value? "max-depth")
  some {
    option := option
    text := text
    format := formatOf arguments
    settingsFile := settingsFile
    maxDepth := maxDepth
    ignoreCase := arguments.has "case-insensitive"
    allowBareNames := arguments.has "no-dollar-prefix" }

def ofWord? (word : String) (texts : List String) : Option Command :=
  match QueryOption.all.find? fun option => option.bareName == word with
  | some option => (parseRequest? option texts).map parse
  | none =>
      if word = "tokens" then do
        let arguments ← Arguments.sort? tokensFlags {} texts
        let text ← operand? arguments
        let dialect := if arguments.has "search" then Dialect.search else .expression
        some (.tokens text dialect (arguments.has "json"))
      else if word = "docs" then do
        let arguments ← Arguments.sort? [] {} texts
        if arguments.operands.isEmpty then some .docs else none
      else if word = "doc" then do
        let arguments ← Arguments.sort? [] {} texts
        match arguments.operands with
        | [category] => some (.doc category)
        | _ => none
      else none

def ofArguments? : List String → Option Command
  | [] => none
  | word :: texts => ofWord? word texts

def settingsFile? : Command → Option String
  | .parse request => request.settingsFile
  | _ => none

def readsInput : Command → Bool
  | .parse request => request.text.isNone
  | .tokens text _ _ => text.isNone
  | .docs | .doc _ => false

def textOf (argument : Option String) (input : RunInput) : Except CommandError String :=
  match argument, input.text with
  | some text, _ => .ok text
  | none, some (.ok text) => .ok text
  | none, some (.error fault) => .error (.reading fault)
  | none, none => .error .noInput

def settingsOf (request : ParseRequest) (input : RunInput) : Except CommandError Settings := do
  let settings ← match request.settingsFile, input.settingsFile with
    | none, _ => pure {}
    | some _, .error fault => throw (.reading fault)
    | some _, .ok text =>
        match Settings.decode? text with
        | some settings => pure settings
        | none => throw .settings
  return { settings with
    maxDepth := request.maxDepth.getD settings.maxDepth
    ignoreCase := settings.ignoreCase || request.ignoreCase
    allowBareNames := settings.allowBareNames || request.allowBareNames }

def run (command : Command) (input : RunInput) : Except CommandError String := do
  match command with
  | .parse request =>
      let settings ← settingsOf request input
      let text ← textOf request.text input
      let printed ← (check settings request.option request.format text).mapError .parse
      return printed ++ "\n"
  | .tokens text dialect json =>
      let text ← textOf text input
      if json then
        let printed ← (tokensJson text dialect).mapError .parse
        return printed ++ "\n"
      else (listTokens text dialect).mapError .parse
  | .docs => return Manual.overview
  | .doc category => manualPage category

end Command

end QueryOptions
