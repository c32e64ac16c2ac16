import Mathlib.Data.List.Basic
import QueryOptions.Proofs.Context

set_option autoImplicit false

namespace QueryOptions

-- A failed operation does not end a routine: what follows is told its error.
inductive Routine : Type → Type 1 where
  | result {α : Type} (outcome : Except ParseError α) : Routine α
  | inspect {α : Type} (next : Context → Routine α) : Routine α
  | declare {α : Type} (name : String) (next : Except ParseError Unit → Routine α) : Routine α
  | remove {α : Type} (name : String) (next : Routine α) : Routine α
  | enter {α : Type} (levels : Nat) (next : Except ParseError Unit → Routine α) : Routine α
  | leave {α : Type} (levels : Nat) (next : Except ParseError Unit → Routine α) : Routine α
  | recurse {α β : Type} (levels : Nat) (body : Routine β) (next : Except ParseError β → Routine α) :
      Routine α

namespace Context

def give {α : Type} : Except ParseError α → Step α
  | .ok value, context => .ok value context
  | .error error, context => .error error context

theorem run_give {α : Type} (outcome : Except ParseError α) (context : Context) :
    run (give outcome) context = (outcome, context) := by
  cases outcome <;> rfl

theorem run_enter (levels : Nat) (context : Context) :
    run (enter levels) context =
      if context.settings.maxDepth < min (context.depth + levels) maxCount then
        (.error (.depthExceeded context.settings.maxDepth), context)
      else (.ok (), { context with depth := (context.depth + levels) % (maxCount + 1) }) := by
  unfold run enter enterBy Counter.wrapping
  by_cases exceeds : context.settings.maxDepth < min (context.depth + levels) maxCount
  · simp only [if_pos exceeds]
  · simp only [if_neg exceeds]

theorem run_leave (levels : Nat) (context : Context) :
    run (leave levels) context =
      if context.depth < levels then (.error .depthMismatch, context)
      else (.ok (), { context with depth := context.depth - levels }) := by
  unfold run leave
  by_cases short : context.depth < levels
  · simp only [if_pos short]
  · simp only [if_neg short]

theorem run_declare (name : String) (context : Context) :
    run (declare name) context =
      if context.isVariable name then (.error (.duplicateVariable name), context)
      else (.ok (), { context with scope := name :: context.scope }) := by
  unfold run declare
  by_cases present : context.isVariable name
  · simp only [if_pos present]
  · simp only [if_neg present]

-- The body starts where the entry ended, and whatever it gives, the levels are closed from
-- where it ended. Of two errors the body's own is the outcome.
theorem run_recurse {α : Type} (levels : Nat) (body : Step α) (context : Context) :
    run (recurse levels body) context =
      match run (enter levels) context with
      | (.error error, after) => (.error error, after)
      | (.ok (), inside) =>
          let done := run body inside
          let closed := run (leave levels) done.2
          (done.1.bind fun value => closed.1.map fun _ => value, closed.2) := by
  simp only [run, recurse, bind, EStateM.bind]
  cases enter levels context with
  | error error after => rfl
  | ok value inside =>
      dsimp only
      cases body inside with
      | ok value ended => cases closing : leave levels ended <;> simp [closing, Except.bind, Except.map]
      | error error ended => cases closing : leave levels ended <;> simp [closing, Except.bind]

end Context

namespace Routine

open Context

def perform {α : Type} : Routine α → Step α
  | result outcome => give outcome
  | inspect next => fun context => (next context).perform context
  | declare name next => fun context =>
      let first := run (Context.declare name) context
      (next first.1).perform first.2
  | remove name next => fun context => next.perform (context.remove name)
  | enter levels next => fun context =>
      let first := run (Context.enter levels) context
      (next first.1).perform first.2
  | leave levels next => fun context =>
      let first := run (Context.leave levels) context
      (next first.1).perform first.2
  | recurse levels body next => fun context =>
      let first := run (Context.recurse levels body.perform) context
      (next first.1).perform first.2

-- The context after each operation in turn. A body that is run has its own between the entry
-- and the close of its levels.
def contexts {α : Type} : Routine α → Context → List Context
  | result _, _ => []
  | inspect next, context => (next context).contexts context
  | declare name next, context =>
      let first := run (Context.declare name) context
      first.2 :: (next first.1).contexts first.2
  | remove name next, context => context.remove name :: next.contexts (context.remove name)
  | enter levels next, context =>
      let first := run (Context.enter levels) context
      first.2 :: (next first.1).contexts first.2
  | leave levels next, context =>
      let first := run (Context.leave levels) context
      first.2 :: (next first.1).contexts first.2
  | recurse levels body next, context =>
      let opened := run (Context.enter levels) context
      let during := match opened.1 with
        | .error _ => []
        | .ok () => opened.2 :: body.contexts opened.2
      let whole := run (Context.recurse levels body.perform) context
      during ++ whole.2 :: (next whole.1).contexts whole.2

end Routine

structure Context.Within (settings : Settings) (context : Context) : Prop where
  same : context.settings = settings
  bounded : context.depth ≤ settings.maxDepth

namespace Context

variable {settings : Settings} {context : Context}

theorem within_new (settings : Settings) : (ofSettings settings).Within settings := ⟨rfl, Nat.zero_le _⟩

theorem within_enter (limited : settings.maxDepth < maxCount) (levels : Nat) (within : context.Within settings) :
    (run (enter levels) context).2.Within settings := by
  rw [run_enter, within.same]
  by_cases exceeds : settings.maxDepth < min (context.depth + levels) maxCount
  · rw [if_pos exceeds]
    exact within
  · -- The sum is not cut off at the greatest count, since the limit is below that.
    rw [if_neg exceeds]
    have fits : context.depth + levels ≤ settings.maxDepth := by omega
    exact ⟨rfl, Nat.le_trans (Nat.mod_le _ _) fits⟩

theorem within_leave (levels : Nat) (within : context.Within settings) :
    (run (leave levels) context).2.Within settings := by
  rw [run_leave]
  split
  · exact within
  · exact ⟨within.same, Nat.le_trans (Nat.sub_le _ _) within.bounded⟩

theorem within_declare (name : String) (within : context.Within settings) :
    (run (declare name) context).2.Within settings := by
  rw [run_declare]
  split
  · exact within
  · exact ⟨within.same, within.bounded⟩

theorem within_remove (name : String) (within : context.Within settings) : (context.remove name).Within settings :=
  ⟨within.same, within.bounded⟩

theorem within_recurse {α : Type} (limited : settings.maxDepth < maxCount) (levels : Nat) {body : Step α}
    (within : context.Within settings)
    (during : ∀ inside : Context, inside.Within settings → (run body inside).2.Within settings) :
    (run (recurse levels body) context).2.Within settings := by
  have opened := within_enter limited levels within
  rw [run_recurse]
  split
  next entry => rwa [entry] at opened
  next inside entry =>
    rw [entry] at opened
    exact within_leave levels (during inside opened)

end Context

namespace Routine

open Context

variable {settings : Settings}

theorem within_perform (limited : settings.maxDepth < maxCount) {α : Type} (routine : Routine α) (context : Context)
    (within : context.Within settings) : (run routine.perform context).2.Within settings := by
  induction routine generalizing context with
  | result outcome =>
      rw [perform, run_give]
      exact within
  | inspect next ih => exact ih context context within
  | declare name next ih => exact ih _ _ (within_declare name within)
  | remove name next ih => exact ih _ (within_remove name within)
  | enter levels next ih => exact ih _ _ (within_enter limited levels within)
  | leave levels next ih => exact ih _ _ (within_leave levels within)
  | recurse levels body next bodyIh ih => exact ih _ _ (within_recurse limited levels within bodyIh)

theorem within_contexts (limited : settings.maxDepth < maxCount) {α : Type} (routine : Routine α) (context : Context)
    (within : context.Within settings) : ∀ after ∈ routine.contexts context, after.Within settings := by
  induction routine generalizing context with
  | result outcome => exact fun after none => absurd none List.not_mem_nil
  | inspect next ih => exact ih context context within
  | declare name next ih =>
      have first := within_declare name within
      exact List.forall_mem_cons.mpr ⟨first, ih _ _ first⟩
  | remove name next ih =>
      have first := within_remove name within
      exact List.forall_mem_cons.mpr ⟨first, ih _ first⟩
  | enter levels next ih =>
      have first := within_enter limited levels within
      exact List.forall_mem_cons.mpr ⟨first, ih _ _ first⟩
  | leave levels next ih =>
      have first := within_leave levels within
      exact List.forall_mem_cons.mpr ⟨first, ih _ _ first⟩
  | recurse levels body next bodyIh ih =>
      have opened := within_enter limited levels within
      have whole := within_recurse limited levels within (within_perform limited body)
      refine List.forall_mem_append.mpr ⟨?_, List.forall_mem_cons.mpr ⟨whole, ih _ _ whole⟩⟩
      split
      · exact fun after none => absurd none List.not_mem_nil
      · exact List.forall_mem_cons.mpr ⟨opened, bodyIh _ opened⟩

variable {context : Context} {error : ParseError} {levels : Nat}

theorem failed_enter_changes_nothing (failed : (run (Context.enter levels) context).1 = .error error) :
    run (Context.enter levels) context = (.error error, context) := by
  rw [run_enter] at failed ⊢
  split at failed <;> cases failed
  rename_i exceeds
  rw [if_pos exceeds]

theorem failed_leave_changes_nothing (failed : (run (Context.leave levels) context).1 = .error error) :
    run (Context.leave levels) context = (.error error, context) := by
  rw [run_leave] at failed ⊢
  split at failed <;> cases failed
  rename_i short
  rw [if_pos short]

theorem entered_depth (limited : context.settings.maxDepth < maxCount) {inside : Context}
    (entered : run (Context.enter levels) context = (.ok (), inside)) : inside.depth = context.depth + levels := by
  rw [run_enter] at entered
  split at entered <;> cases entered
  exact Nat.mod_eq_of_lt (by omega)

theorem refused_body_is_not_run {β : Type} (failed : (run (Context.enter levels) context).1 = .error error)
    (body : Routine β) :
    run (Context.recurse levels body.perform) context = (.error error, context) ∧
      ∀ {α : Type} (next : Except ParseError β → Routine α),
        (recurse levels body next).contexts context = context :: (next (.error error)).contexts context := by
  have refused : run (Context.recurse levels body.perform) context = (.error error, context) := by
    rw [run_recurse, failed_enter_changes_nothing failed]
  refine ⟨refused, fun next => ?_⟩
  rw [contexts, failed_enter_changes_nothing failed, refused]
  rfl

theorem balanced_body_is_undone (limited : context.settings.maxDepth < maxCount) {β : Type} {body : Routine β}
    {outcome : Except ParseError β} {inside ended : Context} (entered : run (Context.enter levels) context = (.ok (), inside))
    (performed : run body.perform inside = (outcome, ended)) (balanced : ended.depth = inside.depth) :
    run (Context.recurse levels body.perform) context = (outcome, { ended with depth := context.depth }) := by
  have depth : ended.depth = context.depth + levels := balanced.trans (entered_depth limited entered)
  have closed : run (Context.leave levels) ended = (.ok (), { ended with depth := context.depth }) := by
    rw [run_leave, if_neg (by omega), depth, Nat.add_sub_cancel]
  rw [run_recurse, entered]
  simp only [performed, closed]
  cases outcome <;> rfl

-- Whatever is done with a new context, whose limit is below the greatest count, never more
-- levels are open than the limit allows. An operation that fails to open or to close levels
-- changes nothing, a body whose levels cannot be opened is not run, and a body that ends as
-- deep as it began gives its own outcome with the depth of before.
theorem depth_stays_accounted (settings : Settings) (limited : settings.maxDepth < maxCount) :
    (∀ {α : Type} (routine : Routine α), ∀ context ∈ routine.contexts (.ofSettings settings),
      context.depth ≤ settings.maxDepth) ∧
    ∀ (context : Context) (levels : Nat),
      (∀ error, (run (Context.enter levels) context).1 = .error error →
        (run (Context.enter levels) context).2.depth = context.depth) ∧
      (∀ error, (run (Context.leave levels) context).1 = .error error →
        (run (Context.leave levels) context).2.depth = context.depth) ∧
      (∀ error, (run (Context.enter levels) context).1 = .error error → ∀ {β : Type} (body : Routine β),
        run (Context.recurse levels body.perform) context = (.error error, context) ∧
        ∀ {α : Type} (next : Except ParseError β → Routine α),
          (recurse levels body next).contexts context = context :: (next (.error error)).contexts context) ∧
      (context.settings.maxDepth < maxCount → ∀ inside, run (Context.enter levels) context = (.ok (), inside) →
        ∀ {β : Type} (body : Routine β) outcome ended, run body.perform inside = (outcome, ended) →
          ended.depth = inside.depth →
            run (Context.recurse levels body.perform) context = (outcome, { ended with depth := context.depth })) := by
  refine ⟨fun routine context reached =>
    (within_contexts limited routine _ (within_new settings) context reached).bounded, fun context levels => ?_⟩
  refine ⟨fun error failed => ?_, fun error failed => ?_, fun error failed => refused_body_is_not_run failed, ?_⟩
  · rw [failed_enter_changes_nothing failed]
  · rw [failed_leave_changes_nothing failed]
  · exact fun limited inside entered β body outcome ended performed balanced =>
      balanced_body_is_undone limited entered performed balanced

-- A body that opens a level, is refused another, closes more than it opened and fails: the
-- level it was run at cannot be closed, and its own error is the outcome. A body of three
-- levels is then not run, and one that fails as deep as it began is undone.
theorem shaky_routine_stays_accounted :
    let settings : Settings := { maxDepth := 2 }
    let late : Routine Unit := .leave 1 fun _ => .enter 1 fun _ => .result (.error (.expressionExpected 7))
    let shaky : Routine Unit :=
      .recurse 1 (.enter 1 fun _ => .enter 1 fun _ => .leave 2 fun _ =>
        .result (.error (.expressionExpected 3))) fun first =>
      .recurse 3 late fun _ => .recurse 2 late fun _ => .result first
    settings.maxDepth < maxCount ∧
      run shaky.perform (.ofSettings settings) = (.error (.expressionExpected 3), .ofSettings settings) ∧
      (shaky.contexts (.ofSettings settings)).map Context.depth = [1, 2, 2, 0, 0, 0, 2, 1, 2, 0] ∧
      ∀ context ∈ shaky.contexts (.ofSettings settings), context.depth ≤ 2 := by
  intro settings late shaky
  exact ⟨by decide +kernel, by decide +kernel, by decide +kernel, (depth_stays_accounted settings (by decide +kernel)).1 shaky⟩

end Routine

end QueryOptions
