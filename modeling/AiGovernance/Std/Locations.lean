import AiGovernance.Std.Json

/-!
# Where the keys of a tree are

The location of a key is the walk to it from the root: the keys and positions
passed on the way and the key itself at the end. `keys` lists the locations in
document order, and `KeyAt` says which they are.
-/

namespace AiGovernance.Std.Json

/-- One step of a walk down a tree. -/
inductive Step where
  | key (name : String)
  | index (position : Nat)
deriving DecidableEq

/-- A walk ends at a key of an object. -/
inductive KeyAt : Json → List Step → String → Prop
  | own {fields key value} (member : (key, value) ∈ fields) : KeyAt (.obj fields) [.key key] key
  | field {fields key value walk name} (member : (key, value) ∈ fields) (below : KeyAt value walk name) :
      KeyAt (.obj fields) (.key key :: walk) name
  | item {items position value walk name} (member : items[position]? = some value) (below : KeyAt value walk name) :
      KeyAt (.arr items) (.index position :: walk) name

/-- A location below a step. -/
def under (step : Step) (location : List Step × String) : List Step × String := (step :: location.1, location.2)

mutual

/-- The locations of the keys of a tree, in document order. -/
def keys : Json → List (List Step × String)
  | .obj fields => keysOfFields fields
  | .arr items => keysOfItems items 0
  | .null | .bool _ | .int _ | .float _ | .str _ => []

/-- The locations in an object: each key before those in its value. -/
def keysOfFields : List (String × Json) → List (List Step × String)
  | [] => []
  | (key, value) :: rest => ([.key key], key) :: ((keys value).map (under (.key key)) ++ keysOfFields rest)

/-- The locations in an array, from a position on. -/
def keysOfItems : List Json → Nat → List (List Step × String)
  | [], _ => []
  | item :: rest, position => (keys item).map (under (.index position)) ++ keysOfItems rest (position + 1)

end

variable {walk : List Step} {name : String}

theorem mem_under {step : Step} {locations : List (List Step × String)} :
    (walk, name) ∈ locations.map (under step) ↔ ∃ below, walk = step :: below ∧ (below, name) ∈ locations := by
  rw [List.mem_map]
  constructor
  · rintro ⟨⟨below, last⟩, member, same⟩
    cases same
    exact ⟨below, rfl, member⟩
  · rintro ⟨below, rfl, member⟩
    exact ⟨(below, name), member, rfl⟩

/-- The keys of an object are those at and below its first field, and the others. -/
theorem keyAt_cons {key : String} {value : Json} {rest : List (String × Json)} :
    KeyAt (.obj ((key, value) :: rest)) walk name ↔ (walk = [.key key] ∧ name = key) ∨
      (∃ below, walk = .key key :: below ∧ KeyAt value below name) ∨ KeyAt (.obj rest) walk name := by
  constructor
  · rintro (@⟨_, other, held, member⟩ | @⟨_, other, held, below, _, member, further⟩)
    · rcases List.mem_cons.mp member with same | member
      · cases same
        exact Or.inl ⟨rfl, rfl⟩
      · exact Or.inr (Or.inr (.own member))
    · rcases List.mem_cons.mp member with same | member
      · cases same
        exact Or.inr (Or.inl ⟨below, rfl, further⟩)
      · exact Or.inr (Or.inr (.field member further))
  · rintro (⟨rfl, rfl⟩ | ⟨below, rfl, further⟩ | other)
    · exact .own List.mem_cons_self
    · exact .field List.mem_cons_self further
    · cases other with
      | own member => exact .own (List.mem_cons_of_mem _ member)
      | field member further => exact .field (List.mem_cons_of_mem _ member) further

mutual

/-- The listed locations are those of the keys. -/
theorem mem_keys {walk : List Step} {name : String} : (value : Json) →
    ((walk, name) ∈ keys value ↔ KeyAt value walk name)
  | .obj fields => mem_keysOfFields fields
  | .arr items => by
    rw [keys, mem_keysOfItems items 0]
    constructor
    · rintro ⟨position, value, below, rfl, member, further⟩
      rw [Nat.zero_add]
      exact .item member further
    · rintro (_ | _ | @⟨_, position, value, below, _, member, further⟩)
      exact ⟨position, value, below, by rw [Nat.zero_add], member, further⟩
  | .null | .bool _ | .int _ | .float _ | .str _ => iff_of_false List.not_mem_nil nofun

theorem mem_keysOfFields {walk : List Step} {name : String} : (fields : List (String × Json)) →
    ((walk, name) ∈ keysOfFields fields ↔ KeyAt (.obj fields) walk name)
  | [] => by
    refine iff_of_false List.not_mem_nil ?_
    rintro (⟨⟨⟩⟩ | ⟨⟨⟩, _⟩)
  | (key, value) :: rest => by
    rw [keysOfFields, List.mem_cons, List.mem_append, mem_under, keyAt_cons, mem_keysOfFields rest, Prod.mk.injEq]
    simp only [mem_keys value]

theorem mem_keysOfItems {walk : List Step} {name : String} : (items : List Json) → (start : Nat) →
    ((walk, name) ∈ keysOfItems items start ↔ ∃ position value below,
      walk = .index (start + position) :: below ∧ items[position]? = some value ∧ KeyAt value below name)
  | [], start => iff_of_false List.not_mem_nil (by rintro ⟨_, _, _, _, member, _⟩; cases member)
  | item :: rest, start => by
    rw [keysOfItems, List.mem_append, mem_under, mem_keysOfItems rest (start + 1)]
    simp only [mem_keys item]
    constructor
    · rintro (⟨below, rfl, further⟩ | ⟨position, value, below, rfl, member, further⟩)
      · exact ⟨0, item, below, rfl, rfl, further⟩
      · exact ⟨position + 1, value, below, by rw [Nat.add_right_comm, Nat.add_assoc], member, further⟩
    · rintro ⟨position | position, value, below, rfl, member, further⟩
      · cases member
        exact Or.inl ⟨below, rfl, further⟩
      · exact Or.inr ⟨position, value, below, by rw [Nat.add_right_comm, Nat.add_assoc], member, further⟩

end

end AiGovernance.Std.Json
