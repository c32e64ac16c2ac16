import Mathlib.Data.List.Pairwise
import QueryOptions.Check
import QueryOptions.Proofs.Json.ReadBack

set_option autoImplicit false

namespace QueryOptions

namespace Outline

inductive Shape (Name : Type) where
  | text
  | nat
  | bool
  | optional (content : Shape Name)
  | list (content : Shape Name)
  | named (name : Name)

def Shape.isOptional {Name : Type} : Shape Name → Bool
  | optional _ => true
  | _ => false

-- One of the forms that the outlines of a named type have, with the shapes of its parts.
inductive Variant (Name : Type) where
  | word (name : String)
  | wrapped (name : String) (content : Shape Name)
  | record (name : String) (fields : List (String × Shape Name))
  | tagged (key name : String) (record : Option String) (fields : List (String × Shape Name))
  | labelled (key name contentKey : String) (content : Shape Name)

namespace Variant

variable {Name : Type}

def shapes : Variant Name → List (Shape Name)
  | word _ => []
  | wrapped _ content => [content]
  | record _ fields => fields.map Prod.snd
  | tagged _ _ _ fields => fields.map Prod.snd
  | labelled _ _ _ content => [content]

def build (contents : List Outline) : Variant Name → Outline
  | word name => .word name
  | wrapped name _ => .wrapped name (contents.headD .absent)
  | record name fields => .record name ((fields.map Prod.fst).zip contents)
  | tagged key name title fields => .tagged key name title ((fields.map Prod.fst).zip contents)
  | labelled key name contentKey _ => .labelled key name contentKey (contents.headD .absent)

def json (contents : List Json) : Variant Name → Json
  | word name => .text name
  | wrapped name _ => .object [(name, contents.headD .null)]
  | record _ fields => .object ((fields.map Prod.fst).zip contents)
  | tagged key name _ fields => .object ((key, .text name) :: (fields.map Prod.fst).zip contents)
  | labelled key name contentKey _ => .object [(key, .text name), (contentKey, contents.headD .null)]

-- Whether the variants have different documents whatever their parts are.
def apart : Variant Name → Variant Name → Bool
  | word name, word name' => name != name'
  | word _, wrapped _ _ => true
  | wrapped _ _, word _ => true
  | wrapped name _, wrapped name' _ => name != name'
  | tagged key name _ _, tagged key' name' _ _ => key != key' || name != name'
  | labelled key name _ _, labelled key' name' _ _ => key != key' || name != name'
  | _, _ => false

def memberNames : Variant Name → List String
  | word _ => []
  | wrapped name _ => [name]
  | record _ fields => fields.map Prod.fst
  | tagged key _ _ fields => key :: fields.map Prod.fst
  | labelled key _ contentKey _ => [key, contentKey]

end Variant

inductive Fits {Name : Type} (table : Name → List (Variant Name)) : Shape Name → Outline → Prop where
  | text (value : String) : Fits table .text (.text value)
  | nat (value : Nat) : Fits table .nat (.nat value)
  | bool (value : Bool) : Fits table .bool (.bool value)
  | absent (content : Shape Name) : Fits table (.optional content) .absent
  | present {content : Shape Name} {outline : Outline} (once : content.isOptional = false)
      (fits : Fits table content outline) : Fits table (.optional content) (.present outline)
  | list {content : Shape Name} {items : List Outline} (each : ∀ item ∈ items, Fits table content item) :
      Fits table (.list content) (.list items)
  | named {name : Name} {variant : Variant Name} {contents : List Outline} (listed : variant ∈ table name)
      (full : contents.length = variant.shapes.length)
      (each : ∀ part ∈ variant.shapes.zip contents, Fits table part.1 part.2) :
      Fits table (.named name) (variant.build contents)

structure Legible {Name : Type} (table : Name → List (Variant Name)) : Prop where
  apart : ∀ name, (table name).Pairwise fun variant variant' => variant.apart variant'
  plain : ∀ name, ∀ variant ∈ table name, ∀ member ∈ variant.memberNames, Json.escape member = member

theorem json_items (items : List Outline) : jsonItems items = items.map json := by
  induction items with
  | nil => rfl
  | cons item items ih => rw [jsonItems, ih, List.map_cons]

theorem json_fields (names : List String) (contents : List Outline) :
    jsonFields (names.zip contents) = names.zip (contents.map json) := by
  induction names generalizing contents with
  | nil => rfl
  | cons name names ih =>
      cases contents with
      | nil => rfl
      | cons content contents => rw [List.zip_cons_cons, jsonFields, ih, List.map_cons, List.zip_cons_cons]

section Tables

variable {Name : Type} {table : Name → List (Variant Name)} {shape : Shape Name} {outline outline' : Outline}

theorem Variant.json_build (variant : Variant Name) (contents : List Outline) :
    (variant.build contents).json = variant.json (contents.map Outline.json) := by
  have first : (contents.headD .absent).json = (contents.map Outline.json).headD .null := by
    cases contents <;> rfl
  cases variant with
  | word name => rfl
  | wrapped name content => rw [build, Outline.json, first, Variant.json]
  | record name fields => rw [build, Outline.json, json_fields, Variant.json]
  | tagged key name title fields => rw [build, Outline.json, json_fields, Variant.json]
  | labelled key name contentKey content => rw [build, Outline.json, first, Variant.json]

theorem Variant.json_apart {variant variant' : Variant Name} (different : variant.apart variant')
    (contents contents' : List Json) : variant.json contents ≠ variant'.json contents' := by
  intro same
  have text_inj {name name' : String} (same : Json.text name = Json.text name') : name = name' :=
    Json.escape_injective (Json.string.inj same)
  cases variant <;> cases variant' <;> simp only [apart, Bool.false_eq_true, bne_iff_ne, ne_eq, Bool.or_eq_true] at different
  case word.word => exact different (text_inj same)
  case word.wrapped => cases same
  case wrapped.word => cases same
  case wrapped.wrapped =>
    simp only [Variant.json, Json.object.injEq, List.cons.injEq, Prod.mk.injEq] at same
    exact different same.1.1
  case tagged.tagged =>
    simp only [Variant.json, Json.object.injEq, List.cons.injEq, Prod.mk.injEq] at same
    exact different.elim (fun key => key same.1.1) fun name => name (text_inj same.1.2)
  case labelled.labelled =>
    simp only [Variant.json, Json.object.injEq, List.cons.injEq, Prod.mk.injEq] at same
    exact different.elim (fun key => key same.1.1) fun name => name (text_inj same.1.2)

theorem Variant.apart_comm (variant variant' : Variant Name) : variant.apart variant' = variant'.apart variant := by
  cases variant <;> cases variant' <;> simp only [apart, bne_comm]

theorem Legible.same_variant (legible : Legible table) {name : Name} {variant variant' : Variant Name}
    (listed : variant ∈ table name) (listed' : variant' ∈ table name) {contents contents' : List Json}
    (same : variant.json contents = variant'.json contents') : variant = variant' := by
  by_contra different
  have : Std.Symm fun variant variant' : Variant Name => variant.apart variant' = true :=
    ⟨fun variant variant' apart => Variant.apart_comm variant' variant ▸ apart⟩
  exact Variant.json_apart ((legible.apart name).forall listed listed' different) contents contents' same

theorem Variant.parts_of_json (variant : Variant Name) {contents contents' : List Json}
    (full : contents.length = variant.shapes.length) (full' : contents'.length = variant.shapes.length)
    (same : variant.json contents = variant.json contents') : contents = contents' := by
  have of_zip {fields : List (String × Shape Name)} (full : contents.length = (fields.map Prod.snd).length)
      (full' : contents'.length = (fields.map Prod.snd).length)
      (same : (fields.map Prod.fst).zip contents = (fields.map Prod.fst).zip contents') : contents = contents' := by
    have parts := congrArg (List.map Prod.snd) same
    rw [List.length_map] at full full'
    rwa [List.map_snd_zip (by rw [List.length_map]; omega), List.map_snd_zip (by rw [List.length_map]; omega)] at parts
  have of_single (full : contents.length = 1) (full' : contents'.length = 1)
      (same : contents.headD .null = contents'.headD .null) : contents = contents' := by
    obtain ⟨content, rfl⟩ := List.length_eq_one_iff.mp full
    obtain ⟨content', rfl⟩ := List.length_eq_one_iff.mp full'
    exact congrArg (fun part => [part]) same
  cases variant with
  | word name => rw [List.length_eq_zero_iff.mp full, List.length_eq_zero_iff.mp full']
  | wrapped name content => exact of_single full full' (by simpa [Variant.json] using same)
  | record name fields => exact of_zip full full' (Json.object.inj same)
  | tagged key name title fields => exact of_zip full full' (List.cons.inj (Json.object.inj same)).2
  | labelled key name contentKey content => exact of_single full full' (by simpa [Variant.json] using same)

theorem Variant.json_not_null (variant : Variant Name) (contents : List Json) : variant.json contents ≠ .null := by
  cases variant <;> exact fun same => by cases same

-- Only what is absent is written as null, so what is present can be told from it.
theorem Fits.json_not_null (fits : Fits table shape outline) (once : shape.isOptional = false) : outline.json ≠ .null := by
  cases fits with
  | text value => exact fun same => by cases same
  | nat value => exact fun same => by cases same
  | bool value => exact fun same => by cases same
  | absent content => cases once
  | present once' fits => cases once
  | list each => exact fun same => by cases same
  | @named name variant contents listed full each =>
      rw [Variant.json_build]
      exact variant.json_not_null _

theorem parts_same {shapes : List (Shape Name)} {parts parts' : List Outline} (full : parts.length = shapes.length)
    (full' : parts'.length = shapes.length)
    (each : ∀ part ∈ shapes.zip parts, ∀ other, Fits table part.1 other → part.2.json = other.json → part.2 = other)
    (each' : ∀ part ∈ shapes.zip parts', Fits table part.1 part.2)
    (same : parts.map json = parts'.map json) : parts = parts' := by
  induction shapes generalizing parts parts' with
  | nil => rw [List.length_eq_zero_iff.mp full, List.length_eq_zero_iff.mp full']
  | cons shape shapes ih =>
      obtain ⟨part, parts, rfl⟩ := List.exists_cons_of_length_eq_add_one full
      obtain ⟨part', parts', rfl⟩ := List.exists_cons_of_length_eq_add_one full'
      rw [List.zip_cons_cons, List.forall_mem_cons] at each each'
      rw [List.map_cons, List.map_cons, List.cons.injEq] at same
      have first : part = part' := each.1 part' each'.1 same.1
      rw [first, ih (Nat.succ.inj full) (Nat.succ.inj full') each.2 each'.2 same.2]

theorem items_same {content : Shape Name} {items items' : List Outline}
    (each : ∀ item ∈ items, ∀ other, Fits table content other → item.json = other.json → item = other)
    (each' : ∀ item ∈ items', Fits table content item) (same : items.map json = items'.map json) : items = items' := by
  induction items generalizing items' with
  | nil => exact (List.map_eq_nil_iff.mp same.symm).symm
  | cons item items ih =>
      cases items' with
      | nil => cases same
      | cons item' items' =>
          rw [List.forall_mem_cons] at each each'
          rw [List.map_cons, List.map_cons, List.cons.injEq] at same
          rw [each.1 item' each'.1 same.1, ih each.2 each'.2 same.2]

-- By induction on the fit of one outline: the document gives the variant, and that the
-- parts, each of which is determined by its own document.
theorem Fits.json_injective (legible : Legible table) (fits : Fits table shape outline)
    (fits' : Fits table shape outline') (same : outline.json = outline'.json) : outline = outline' := by
  induction fits generalizing outline' with
  | text value =>
      cases fits' with
      | text value' => rw [Json.escape_injective (Json.string.inj same)]
  | nat value =>
      cases fits' with
      | nat value' => rw [Json.nat_string_injective (Json.number.inj same)]
  | bool value =>
      cases fits' with
      | bool value' => rw [Json.bool.inj same]
  | absent content =>
      cases fits' with
      | absent => rfl
      | present once fits' => exact absurd same.symm (fits'.json_not_null once)
  | present once fits ih =>
      cases fits' with
      | absent => exact absurd same (fits.json_not_null once)
      | present once' fits' => rw [ih fits' same]
  | list each ih =>
      cases fits' with
      | list each' =>
          rw [json, json, json_items, json_items] at same
          rw [items_same ih each' (Json.array.inj same)]
  | @named name variant contents listed full each ih =>
      cases fits' with
      | @named _ variant' contents' listed' full' each' =>
          rw [Variant.json_build, Variant.json_build] at same
          obtain rfl := legible.same_variant listed listed' same
          have parts := variant.parts_of_json (by rw [List.length_map, full]) (by rw [List.length_map, full']) same
          rw [parts_same full full' ih each' parts]

theorem Variant.json_proper {variant : Variant Name} {contents : List Json}
    (plain : ∀ member ∈ variant.memberNames, Json.escape member = member)
    (proper : ∀ content ∈ contents, content.Proper) : (variant.json contents).Proper := by
  have single : (contents.headD .null).Proper := by
    cases contents with
    | nil => exact .null
    | cons content contents => exact proper content List.mem_cons_self
  have named {names : List String} (plain : ∀ name ∈ names, Json.escape name = name) (member : String × Json)
      (listed : member ∈ names.zip contents) : (∃ name, member.1 = Json.escape name) ∧ member.2.Proper := by
    obtain ⟨first, second⟩ := List.of_mem_zip (a := member.1) (b := member.2) listed
    exact ⟨⟨member.1, (plain _ first).symm⟩, proper _ second⟩
  have object {members : List (String × Json)}
      (each : ∀ member ∈ members, (∃ name, member.1 = Json.escape name) ∧ member.2.Proper) : (Json.object members).Proper :=
    .object (fun member listed => (each member listed).1) fun member listed => (each member listed).2
  cases variant with
  | word name => exact .text name
  | wrapped name content =>
      exact object (List.forall_mem_singleton.mpr ⟨⟨name, (plain name List.mem_cons_self).symm⟩, single⟩)
  | record name fields => exact object (named plain)
  | tagged key name title fields =>
      obtain ⟨first, others⟩ := List.forall_mem_cons.mp plain
      exact object (List.forall_mem_cons.mpr ⟨⟨⟨key, first.symm⟩, .text name⟩, named others⟩)
  | labelled key name contentKey content =>
      obtain ⟨first, others⟩ := List.forall_mem_cons.mp plain
      exact object (List.forall_mem_cons.mpr ⟨⟨⟨key, first.symm⟩, .text name⟩,
        List.forall_mem_singleton.mpr ⟨⟨contentKey, (others contentKey List.mem_cons_self).symm⟩, single⟩⟩)

theorem Fits.json_proper (legible : Legible table) (fits : Fits table shape outline) : outline.json.Proper := by
  induction fits with
  | text value => exact .text value
  | nat value => exact .nat value
  | bool value => exact .bool value
  | absent content => exact .null
  | present once fits ih => exact ih
  | @list content items each ih =>
      rw [json, json_items]
      exact .array (List.forall_mem_map.mpr ih)
  | @named name variant contents listed full each ih =>
      rw [Variant.json_build]
      refine Variant.json_proper (legible.plain name variant listed) (List.forall_mem_map.mpr fun content member => ?_)
      have paired : (variant.shapes.zip contents).map Prod.snd = contents := List.map_snd_zip (Nat.le_of_eq full)
      rw [← paired, List.mem_map] at member
      obtain ⟨part, paired, rfl⟩ := member
      exact ih part paired

theorem Fits.print_injective (legible : Legible table) (fits : Fits table shape outline)
    (fits' : Fits table shape outline') :
    (outline.print .json = outline'.print .json ↔ outline = outline') ∧
      (outline.print .prettyJson = outline'.print .prettyJson ↔ outline = outline') := by
  obtain ⟨compact, pretty⟩ := Json.parse_written (fits.json_proper legible)
  obtain ⟨compact', pretty'⟩ := Json.parse_written (fits'.json_proper legible)
  refine ⟨⟨fun same => ?_, congrArg _⟩, fun same => ?_, congrArg _⟩
  · rw [show outline.json.compact = outline'.json.compact from same, compact', Option.some.injEq] at compact
    exact fits.json_injective legible fits' compact.symm
  · rw [show outline.json.pretty 0 = outline'.json.pretty 0 from same, pretty', Option.some.injEq] at pretty
    exact fits.json_injective legible fits' pretty.symm

end Tables

end Outline

end QueryOptions
