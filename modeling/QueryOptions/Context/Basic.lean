import QueryOptions.Error
import QueryOptions.Settings.Basic

set_option autoImplicit false

namespace QueryOptions

structure Context where
  settings : Settings
  depth : Nat
  scope : List String
deriving DecidableEq, Repr

-- How levels are counted: the sum that is compared with the limit, and the one that is kept.
class Counter where
  reached : Nat → Nat → Nat
  add : Nat → Nat → Nat

namespace Counter

instance unbounded : Counter := ⟨fun depth levels => depth + levels, fun depth levels => depth + levels⟩

-- In 64 bits. A sum past the greatest count is that count to the limit, which as the greatest one
-- refuses nothing, and is kept as what is left of it beyond.
@[reducible]
def wrapping : Counter :=
  ⟨fun depth levels => min (depth + levels) maxCount, fun depth levels => (depth + levels) % (maxCount + 1)⟩

end Counter

namespace Context

def standing : List String := ["$it", "$this"]

def ofSettings (settings : Settings) : Context := ⟨settings, 0, standing⟩

-- What can be done with a context; an error keeps what was done before it.
abbrev Step (α : Type) := EStateM ParseError Context α

-- Opens levels, all of them or none.
def enterBy (counter : Counter) (levels : Nat) : Step Unit := fun context =>
  if context.settings.maxDepth < counter.reached context.depth levels then
    .error (.depthExceeded context.settings.maxDepth) context
  else .ok () { context with depth := counter.add context.depth levels }

def enter (levels : Nat) : Step Unit := enterBy .wrapping levels

def leave (levels : Nat) : Step Unit := fun context =>
  if context.depth < levels then .error .depthMismatch context
  else .ok () { context with depth := context.depth - levels }

-- Runs a body some levels deeper. The levels are closed again whether the body fails or
-- not, and its own error comes before that of closing them.
def recurse {α : Type} (levels : Nat) (body : Step α) : Step α := do
  enter levels
  fun context =>
    match body context with
    | .ok value context =>
        match leave levels context with
        | .ok _ context => .ok value context
        | .error error context => .error error context
    | .error error context =>
        match leave levels context with
        | .ok _ context => .error error context
        | .error _ context => .error error context

def isVariable (context : Context) (name : String) : Bool := context.scope.contains name

def declare (name : String) : Step Unit := fun context =>
  if context.isVariable name then .error (.duplicateVariable name) context
  else .ok () { context with scope := name :: context.scope }

def remove (name : String) (context : Context) : Context :=
  { context with scope := context.scope.erase name }

def remaining (context : Context) : Nat := context.settings.maxDepth - context.depth

end Context

end QueryOptions
