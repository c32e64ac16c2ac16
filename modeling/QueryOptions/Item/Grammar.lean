import QueryOptions.Item.Path
import QueryOptions.Search.Grammar

/-!
The grammar of `$select` and `$expand` lists.

    list    := [item ("," item)*]
    item    := path ["(" option (";" option)* ")"]
    option  := name "=" value

The value of an option is cut out of the text and then read by the grammar of the option, in the
same scope, at the same depth and with positions in the whole text. A nested list takes eight levels.
-/

set_option autoImplicit false

namespace QueryOptions.Items

open Parse

def countValue (option : ItemOption) (value : String) (position : Nat) : Parse Nat :=
  match unsigned? (Text.trim value.toList) with
  | some count => pure count
  | none => throw (.invalidOptionValue option.name value position)

def boolValue (option : ItemOption) (value : String) (position : Nat) : Parse Bool :=
  let word := String.ofList (Text.trim value.toList)
  if Text.sameFolded word "true" then pure true
  else if Text.sameFolded word "false" then pure false
  else throw (.invalidOptionValue option.name value position)

def levelsValue (option : ItemOption) (value : String) (position : Nat) : Parse Levels :=
  if Text.sameFolded (String.ofList (Text.trim value.toList)) "max" then pure .max
  else do return .count (← countValue option value position)

def readValue [Counter] (settings : Settings) (levels : Nat)
    (nested : ItemKind → String → Nat → Parse (List Item)) (options : NestedOptions)
    (option : ItemOption) (value : String) (position : Nat) : Parse NestedOptions := do
  match option with
  | .filter =>
      let filter ← within value .expression position (Expression.whole settings levels)
      pure { options with filter := some filter }
  | .orderBy =>
      let orderBy ← within value .expression position (Order.whole settings levels)
      pure { options with orderBy := some orderBy }
  | .top => pure { options with top := some (← countValue option value position) }
  | .skip => pure { options with skip := some (← countValue option value position) }
  | .count => pure { options with count := some (← boolValue option value position) }
  | .search =>
      let search ← within value .search position (Search.whole settings levels)
      pure { options with search := some search }
  | .compute =>
      let compute ← within value .expression position (Compute.whole settings levels)
      pure { options with compute := some compute }
  | .select =>
      let items ← nested .select value position
      pure { options with select := some (items.map Item.toSelect) }
  | .expand =>
      let items ← nested .expand value position
      pure { options with expand := some (items.map Item.toExpand) }
  | .levels => pure { options with levels := some (← levelsValue option value position) }

def optionName (settings : Settings) (kind : ItemKind) (seen : List ItemOption) :
    Parse ItemOption := do
  let key ← current
  if key.kind = .identifier then
    match kind.option? settings key.text with
    | some option =>
        advance
        if ← atKind .equal then
          if option ∈ seen then throw (.duplicateOption option.name key.position)
          else pure option
        else failExpected "'='"
    | none => throw (.unknownOption key.text key.position)
  else failExpected "query option"

def optionsFrom [Counter] (settings : Settings) (kind : ItemKind) (levels : Nat)
    (nested : ItemKind → String → Nat → Parse (List Item)) :
    Nat → List ItemOption → NestedOptions → Parse NestedOptions
  | 0, _, options => pure options
  | count + 1, seen, options => do
      let option ← optionName settings kind seen
      let (value, position) ← move Cursor.optionValue
      let options ← readValue settings levels nested options option value position
      let last ← atKind .closeParen
      advance
      if last then pure options
      else optionsFrom settings kind levels nested count (option :: seen) options

-- The options in parentheses. Every option takes a character at least.
def options [Counter] (settings : Settings) (kind : ItemKind) (levels : Nat)
    (nested : ItemKind → String → Nat → Parse (List Item)) : Parse NestedOptions := do
  let position := (← current).position
  expect .openParen "'('"
  if ← atKind .closeParen then throw (.emptyOptionList position)
  else optionsFrom settings kind levels nested ((← get).cursor.rest.length + 1) [] {}

def item [Counter] (settings : Settings) (kind : ItemKind) (levels : Nat)
    (nested : ItemKind → String → Nat → Parse (List Item)) : Parse Item := do
  let path ← path settings kind
  if ← atKind .openParen then
    let options ← options settings kind levels nested
    pure ⟨path, options⟩
  else pure ⟨path, {}⟩

def list [Counter] (settings : Settings) (kind : ItemKind) (levels : Nat)
    (nested : ItemKind → String → Nat → Parse (List Item)) : Parse (List Item) := do
  if ← atKind .finish then pure []
  else
    let items ← sepBy .comma (item settings kind levels nested)
    expectEnd
    pure items

-- A list and nothing after it. The levels of a nested list are taken before its text is
-- looked at.
def whole [Counter] (settings : Settings) (kind : ItemKind) : Nat → Parse (List Item)
  | levels + 8 =>
      list settings kind (levels + 8) fun kind value position =>
        recurse settings 8 (within value .expression position (whole settings kind levels))
  | levels => list settings kind levels fun _ _ _ => tooDeep settings

end QueryOptions.Items
