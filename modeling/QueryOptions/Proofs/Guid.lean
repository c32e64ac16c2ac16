import Mathlib.Data.List.Basic
import QueryOptions.Guid

set_option autoImplicit false

namespace QueryOptions.Guid

-- Groups of hexadecimal digits of these sizes, with dashes between them.
inductive Grouped : List Nat → List Char → Prop where
  | last {size : Nat} {group : List Char} (long : group.length = size) (hex : ∀ c ∈ group, Text.isHexDigit c) :
      Grouped [size] group
  | further {size : Nat} {sizes : List Nat} {group text : List Char} (long : group.length = size)
      (hex : ∀ c ∈ group, Text.isHexDigit c) (others : Grouped sizes text) : Grouped (size :: sizes) (group ++ '-' :: text)

variable {text between rest : List Char} {size : Nat} {sizes : List Nat}

theorem grouped_characters (grouped : Grouped sizes text) : ∀ c ∈ text, Text.isHexDigit c ∨ c = '-' := by
  induction grouped with
  | last _ hex => exact fun c member => .inl (hex c member)
  | further _ hex _ ih =>
      refine List.forall_mem_append.mpr ⟨fun c member => .inl (hex c member), ?_⟩
      exact List.forall_mem_cons.mpr ⟨.inr rfl, ih⟩

theorem grouped_dashes (grouped : Grouped sizes text) : text.count '-' + 1 = sizes.length := by
  have none {group : List Char} (hex : ∀ c ∈ group, Text.isHexDigit c) : group.count '-' = 0 :=
    List.count_eq_zero.mpr fun dash => absurd (hex '-' dash) (by decide)
  induction grouped with
  | last _ hex => simp [none hex]
  | further _ hex _ ih => simp [none hex, ih]

theorem group_iff : afterGroup? size text = some rest ↔
    ∃ group, text = group ++ rest ∧ group.length = size ∧ ∀ c ∈ group, Text.isHexDigit c := by
  unfold afterGroup?
  dsimp only
  constructor
  · intro read
    split at read
    · rename_i whole
      cases read
      exact ⟨_, (List.take_append_drop size text).symm, whole.1, List.all_eq_true.mp whole.2⟩
    · cases read
  · rintro ⟨group, rfl, rfl, hex⟩
    simp [List.all_eq_true.mpr hex]

theorem dash_iff : afterDash? text = some rest ↔ text = '-' :: rest := by
  unfold afterDash?
  split
  · simp
  · rename_i other
    exact iff_of_false (by simp) (other rest)

theorem is_guid_iff : isGuid text ↔ Grouped [8, 4, 4, 4, 12] text := by
  simp only [isGuid, beq_iff_eq, Option.bind_eq_bind, Option.bind_eq_some_iff, group_iff, dash_iff]
  constructor
  · rintro ⟨_, ⟨_, rfl, long₁, hex₁⟩, _, rfl, _, ⟨_, rfl, long₂, hex₂⟩, _, rfl, _, ⟨_, rfl, long₃, hex₃⟩, _, rfl,
      _, ⟨_, rfl, long₄, hex₄⟩, _, rfl, group, rfl, long₅, hex₅⟩
    rw [List.append_nil]
    exact .further long₁ hex₁ (.further long₂ hex₂ (.further long₃ hex₃ (.further long₄ hex₄ (.last long₅ hex₅))))
  · rintro (_ | ⟨long₁, hex₁, _ | ⟨long₂, hex₂, _ | ⟨long₃, hex₃, _ | ⟨long₄, hex₄, ⟨long₅, hex₅⟩ | ⟨-, -, ⟨⟩⟩⟩⟩⟩⟩)
    exact ⟨_, ⟨_, rfl, long₁, hex₁⟩, _, rfl, _, ⟨_, rfl, long₂, hex₂⟩, _, rfl, _, ⟨_, rfl, long₃, hex₃⟩, _, rfl,
      _, ⟨_, rfl, long₄, hex₄⟩, _, rfl, _, (List.append_nil _).symm, long₅, hex₅⟩

end QueryOptions.Guid
