import QueryOptions.Equality
import QueryOptions.Proofs.Threshold

set_option autoImplicit false

namespace QueryOptions.Context

variable {context : Context} {option : QueryOption} {text : String}

theorem counts_of_enough (enough : context.depth + 8 * (Text.byteLength text.toList + 1) ≤ context.settings.maxDepth) :
    context.Counts option text := by
  have opened : context.depth + context.remaining ≤ context.settings.maxDepth := by
    unfold remaining
    omega
  have left : 8 * (Text.byteLength text.toList + 1) ≤ context.remaining := by
    unfold remaining
    omega
  exact .inr (parse_with_not_exceeded opened left)

theorem parse_ends (counts : context.Counts option text) :
    (run (parse option text) context).2 = context ∧
      ∀ error, (run (parse option text) context).1 = .error error → Accounted context.settings.maxDepth error := by
  have ends := parse_with_ends option text context.remaining context
  unfold run at ends ⊢
  rwa [parse_of_counts counts]

theorem parse_each_outcomes {calls : List (QueryOption × String)} (counts : ∀ call ∈ calls, context.Counts call.1 call.2) :
    parseEach calls context = (calls.map fun call => (run (parse call.1 call.2) context).1, context) := by
  induction calls with
  | nil => rfl
  | cons call calls ih =>
      obtain ⟨first, others⟩ := List.forall_mem_cons.mp counts
      rw [parseEach, (parse_ends first).1, ih others]
      rfl

theorem parse_in_new_context {settings : Settings} (counts : (ofSettings settings).Counts option text) :
    (run (parse option text) (.ofSettings settings)).1 = QueryOptions.parse settings option text := by
  rw [parse_by_run]
  unfold run
  rw [parse_of_counts counts]
  rfl

-- A parse leaves its context as it was, on success and on every error alike, and the
-- accounts of levels always match: `depthMismatch` is never the outcome. So each parse of a
-- sequence in one context gives what it would give in the first context. Only a limit that is the
-- greatest count asks for more: that no level is opened beyond it.
theorem parse_leaves_context (context : Context) :
    (∀ option text, context.Counts option text →
      (run (parse option text) context).2 = context ∧ (run (parse option text) context).1 ≠ .error .depthMismatch) ∧
    (∀ calls : List (QueryOption × String), (∀ call ∈ calls, context.Counts call.1 call.2) →
      parseEach calls context = (calls.map fun call => (run (parse call.1 call.2) context).1, context)) ∧
    ∀ option text, context.depth + 8 * (Text.byteLength text.toList + 1) ≤ context.settings.maxDepth →
      context.Counts option text := by
  refine ⟨fun option text counts => ?_, fun calls counts => parse_each_outcomes counts, fun option text enough =>
    counts_of_enough enough⟩
  obtain ⟨same, accounted⟩ := parse_ends counts
  exact ⟨same, fun mismatch => (accounted _ mismatch).balanced rfl⟩

-- Five levels deep, among the variables of a lambda: one that is taken, a list that is too deep
-- and an order that is accepted. Seven levels deep under the greatest limit a name has levels enough.
theorem refused_texts_leave_context :
    let context : Context := ⟨{ maxDepth := 15 }, 5, ["p", "$it"]⟩
    let calls := [(QueryOption.filter, "x/any(p:p)"), (.expand, "a($expand=b($filter=c))"), (.orderBy, "a desc")]
    (∀ call ∈ calls, context.Counts call.1 call.2) ∧
      parseEach calls context =
        ([.error (.duplicateVariable "p"), .error (.depthExceeded 15), .ok (.orderBy [⟨.endPath "a" none, .descending⟩])],
          context) ∧
      (⟨{ maxDepth := maxCount }, 7, standing⟩ : Context).Counts .filter "a" := by
  intro context calls
  have counts : ∀ call ∈ calls, context.Counts call.1 call.2 := fun _ _ => .inl (by decide)
  refine ⟨counts, ((parse_leaves_context context).2.1 calls counts).trans ?_, ?_⟩
  · decide +kernel
  · exact (parse_leaves_context ⟨{ maxDepth := maxCount }, 7, standing⟩).2.2 .filter "a" (by decide +kernel)

-- At the greatest limit with one level left, the level beyond it is opened as the first one. It
-- cannot be closed, and the levels that were open are lost.
theorem greatest_limit_loses_context :
    let context : Context := ⟨{ maxDepth := maxCount }, maxCount - 1, standing⟩
    run (enter (maxCount - 1)) (.ofSettings { maxDepth := maxCount }) = (.ok (), context) ∧
      run (parse .filter "a") context = (.error .depthMismatch, { context with depth := 0 }) := by
  decide +kernel

end QueryOptions.Context
