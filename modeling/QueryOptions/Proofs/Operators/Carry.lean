import QueryOptions.Proofs.Replay.Basic

set_option autoImplicit false

namespace QueryOptions

open Parse

-- What the first parse accepts before such a lexeme, the second one accepts in the same way.
def Carries (good : Lexeme → Prop) {α : Type} (p q : Parse α) : Prop :=
  ∀ state value after, p state = .ok value after → good after.cursor.token.lexeme → q state = .ok value after

-- A parse that is accepted before a lexeme of the second kind starts at one of the first.
def Demands (first last : Lexeme → Prop) {α : Type} (p : Parse α) : Prop :=
  ∀ state value after, p state = .ok value after → last after.cursor.token.lexeme → first state.cursor.token.lexeme

variable {α β : Type} {good middle first last : Lexeme → Prop} {p q p' q' : Parse α} {f g : α → Parse β}
variable {settings : Settings} {kind : TokenKind} {ignoreCase : Bool} {word : String}

theorem carries_refl (p : Parse α) : Carries good p p := fun _ _ _ done _ => done

theorem carries_of_eq (same : p = q) : Carries good p q := same ▸ carries_refl p

theorem carries_anywhere (carries : Carries Anywhere p q) : Carries good p q :=
  fun state value after done _ => carries state value after done trivial

theorem carries_never (fails : ∀ state value after, p state ≠ .ok value after) : Carries good p q :=
  fun state value after done => absurd done (fails state value after)

theorem carries_bind (before : Carries middle p q) (behind : ∀ value, Carries good (f value) (g value))
    (demands : ∀ value, Demands middle good (f value)) : Carries good (p >>= f) (q >>= g) := by
  intro state value after done here
  obtain ⟨result, between, ran, rest⟩ := bind_ok done
  have ran' := before state result between ran (demands result between value after rest here)
  exact (bind_done ran').trans (behind result between value after rest here)

theorem demands_anywhere : Demands Anywhere last p := fun _ _ _ _ _ => trivial

theorem carries_then (behind : ∀ value, Carries good (f value) (g value)) : Carries good (p >>= f) (p >>= g) :=
  carries_bind (carries_refl p) behind fun _ => demands_anywhere

theorem demands_pure (value : α) : Demands first first (pure value) := by
  rintro state _ _ ⟨⟩ here
  exact here

theorem demands_never (fails : ∀ state value after, p state ≠ .ok value after) : Demands first last p :=
  fun state value after done => absurd done (fails state value after)

theorem demands_bind (before : Demands first middle p) (behind : ∀ value, Demands middle last (f value)) :
    Demands first last (p >>= f) := by
  intro state value after done here
  obtain ⟨result, between, ran, rest⟩ := bind_ok done
  exact before state result between ran (behind result between value after rest here)

theorem carries_map (change : α → β) (carries : Carries good p q) :
    Carries good (do return change (← p) : Parse β) (do return change (← q)) :=
  carries_bind carries (fun _ => carries_refl _) fun _ => demands_pure _

theorem carries_ite {c : Prop} [Decidable c] (yes : Carries good p q) (no : Carries good p' q') :
    Carries good (if c then p else p') (if c then q else q') := by
  split
  · exact yes
  · exact no

theorem demands_at_kind (marks : ∀ lexeme : Lexeme, lexeme.kind = kind → first lexeme) (other : Demands first last q) :
    Demands first last (do if ← atKind kind then p else q) := by
  intro state value after done here
  change (if state.cursor.token.kind == kind then p else q : Parse α) state = _ at done
  by_cases found : state.cursor.token.kind == kind
  · exact marks _ (eq_of_beq found)
  · rw [if_neg found] at done
    exact other state value after done here

theorem demands_at_keyword (spelled : ∀ token : Token, token.isKeyword ignoreCase word → first token.lexeme)
    (other : Demands first last q) : Demands first last (do if ← atKeyword ignoreCase word then p else q) := by
  intro state value after done here
  change (if state.cursor.token.isKeyword ignoreCase word then p else q : Parse α) state = _ at done
  by_cases found : state.cursor.token.isKeyword ignoreCase word
  · exact spelled _ found
  · rw [if_neg found] at done
    exact other state value after done here

theorem demands_expect (marks : ∀ lexeme : Lexeme, lexeme.kind = kind → first lexeme) (description : String) :
    Demands first last (expect kind description) := by
  intro state value after done _
  rw [expect_by_current] at done
  change (if state.cursor.token.kind = kind then advance else throw _ : Parse Unit) state = _ at done
  by_cases found : state.cursor.token.kind = kind
  · exact marks _ found
  · rw [if_neg found] at done
    cases done

theorem demands_expect_keyword (spelled : ∀ token : Token, token.isKeyword ignoreCase word → first token.lexeme) :
    Demands first last (expectKeyword ignoreCase word) :=
  demands_at_keyword spelled (demands_never fun _ _ _ done => by cases done)

theorem demands_expect_end (marks : ∀ lexeme : Lexeme, lexeme.kind = .finish → first lexeme) :
    Demands first last expectEnd := by
  intro state value after done _
  change (if state.cursor.token.kind = .finish then pure () else throw _ : Parse Unit) state = _ at done
  by_cases found : state.cursor.token.kind = .finish
  · exact marks _ found
  · rw [if_neg found] at done
    cases done

theorem carries_closed {close : Parse Unit} (body : Carries middle p q) (closes : Demands middle Anywhere close)
    (rest : ∀ value, Carries good (f value) (g value)) :
    Carries good
      (do
        let value ← p
        close
        f value)
      (do
        let value ← q
        close
        g value) :=
  carries_bind body (fun value => carries_then fun _ => rest value) fun _ =>
    demands_bind closes fun _ => demands_anywhere

theorem carries_separated {separator : TokenKind} (marks : ∀ lexeme : Lexeme, lexeme.kind = separator → good lexeme)
    (item : Carries good p q) (count : Nat) :
    Carries good (separated separator p count) (separated separator q count) ∧
      Demands good good (separated separator p count) := by
  induction count with
  | zero => exact ⟨carries_refl _, demands_pure _⟩
  | succ count ih =>
      refine ⟨carries_then fun _ => carries_ite ?_ (carries_refl _), demands_at_kind marks (demands_pure _)⟩
      exact carries_then fun _ => carries_bind item (fun _ => carries_map _ ih.1) fun _ =>
        demands_bind ih.2 fun _ => demands_pure _

theorem carries_sep_by {separator : TokenKind} (marks : ∀ lexeme : Lexeme, lexeme.kind = separator → good lexeme)
    (item : Carries good p q) : Carries good (sepBy separator p) (sepBy separator q) := by
  have further (first : α) (count : Nat) :
      Carries good (do return first :: (← separated separator p count) : Parse (List α))
          (do return first :: (← separated separator q count)) ∧
        Demands good good (do return first :: (← separated separator p count) : Parse (List α)) :=
    have others := carries_separated marks item count
    ⟨carries_map _ others.1, demands_bind others.2 fun _ => demands_pure _⟩
  refine carries_bind item (fun first state value after done here => ?_) fun first state value after done here => ?_
  · exact (further first (state.cursor.rest.length + 1)).1 state value after done here
  · exact (further first (state.cursor.rest.length + 1)).2 state value after done here

theorem carries_closing (count : ParseState → Nat) (carries : Carries good p q) :
    Carries good (closing settings count p) (closing settings count q) := by
  intro state value after done here
  obtain ⟨before, ran, same⟩ := closing_done done
  rw [same] at here
  have again := carries state value before ran here
  unfold closing at done ⊢
  rw [ran] at done
  rw [again]
  exact done

theorem carries_recurse (levels : Nat) (carries : Carries good p q) :
    Carries good (recurse settings levels p) (recurse settings levels q) :=
  carries_then fun _ => carries_closing _ carries

theorem carries_chain (carries : Carries good p q) : Carries good (chain settings p) (chain settings q) := by
  refine carries_then fun _ state value after done here => ?_
  rw [counting_links_by_map] at done ⊢
  obtain ⟨before, ran, rfl⟩ := map_state_ok done
  rw [carries_closing _ carries _ value before ran here]
  rfl

theorem carries_declaring (name : String) (carries : Carries good p q) :
    Carries good (declaring settings name p) (declaring settings name q) := by
  rw [declaring_by_map, declaring_by_map]
  refine carries_then fun _ state value after done here => ?_
  obtain ⟨before, ran, rfl⟩ := map_state_ok done
  rw [carries _ value before ran here]
  rfl

theorem carries_within (text : String) (dialect : Dialect) (position : Nat) (carries : Carries Anywhere p q) :
    Carries good (within text dialect position p) (within text dialect position q) := by
  intro state value after done _
  rw [within_by_map] at done ⊢
  obtain ⟨before, ran, rfl⟩ := map_state_ok done
  have again : Carries Anywhere (do advance; p : Parse α) (do advance; q : Parse α) := carries_then fun _ => carries
  rw [again _ value before ran trivial]
  rfl

end QueryOptions
