import TargetTypes.Text.Blank

/-!
# Mapping options

What a configuration sets. The enum types are a set and the custom types a table, so two
options agree if they hold the same members and answer every look-up alike, in whatever order
they were written.

    agree a b ↔ same settings, same members, same look-ups                  (agree_iff)
-/

namespace TargetTypes

structure Options where
  language : Text := "scala"
  /-- Nullable return types are wrapped as optional. -/
  optionalReturns : Bool := false
  subscriptionType : Option Text := none
  returnListType : Option Text := none
  returnType : Option Text := none
  modelPrefix : Option Text := none
  modelSuffix : Option Text := none
  /-- Enum types that need their generated companion. -/
  enums : List Text := []
  package : Option Text := none
  modelPackage : Option Text := none
  /-- Schema type to target type. -/
  customTypes : List (Text × Text) := []
deriving DecidableEq, Repr

namespace Options

/-! ## Algorithm -/

/-- The package of the generated model classes. -/
def classPackage (opts : Options) : Option Text :=
  match Text.inForce? opts.modelPackage with
  | some package => some package
  | none => opts.package

def className (opts : Options) (typeName : Text) : Text :=
  opts.modelPrefix.getD [] ++ typeName ++ opts.modelSuffix.getD []

/-- The settings that are neither sets nor tables. -/
def settings (opts : Options) : Options := { opts with enums := [], customTypes := [] }

def sameMembers (a b : List Text) : Bool := a.all b.contains && b.all a.contains

def sameEntries (a b : List (Text × Text)) : Bool :=
  (a ++ b).all fun entry => a.lookup entry.1 == b.lookup entry.1

def agree (a b : Options) : Bool :=
  a.settings == b.settings && sameMembers a.enums b.enums &&
    sameEntries a.customTypes b.customTypes

/-! ## Lemmas -/

theorem sameMembers_iff {a b : List Text} :
    sameMembers a b = true ↔ ∀ name, name ∈ a ↔ name ∈ b := by
  simp only [sameMembers, Bool.and_eq_true, List.all_eq_true, List.contains_iff_mem]
  exact ⟨fun h name => ⟨h.1 name, h.2 name⟩,
    fun h => ⟨fun name => (h name).mp, fun name => (h name).mpr⟩⟩

theorem lookup_eq_none_of_forall {key : Text} {table : List (Text × Text)}
    (h : ∀ entry ∈ table, entry.1 ≠ key) : table.lookup key = none := by
  induction table with
  | nil => rfl
  | cons e rest ih =>
    have hk : (key == e.1) = false :=
      beq_false_of_ne fun he => h e List.mem_cons_self he.symm
    rw [List.lookup_cons, hk]
    exact ih fun entry hm => h entry (List.mem_cons_of_mem _ hm)

theorem sameEntries_iff {a b : List (Text × Text)} :
    sameEntries a b = true ↔ ∀ key, a.lookup key = b.lookup key := by
  simp only [sameEntries, List.all_eq_true, beq_iff_eq, List.mem_append]
  refine ⟨fun h key => ?_, fun h entry _ => h entry.1⟩
  by_cases hk : ∃ entry, (entry ∈ a ∨ entry ∈ b) ∧ entry.1 = key
  · obtain ⟨entry, hm, rfl⟩ := hk
    exact h entry hm
  · have hn : ∀ entry, entry ∈ a ∨ entry ∈ b → entry.1 ≠ key :=
      fun entry hm he => hk ⟨entry, hm, he⟩
    rw [lookup_eq_none_of_forall fun e hm => hn e (Or.inl hm),
      lookup_eq_none_of_forall fun e hm => hn e (Or.inr hm)]

theorem agree_iff {a b : Options} :
    agree a b = true ↔ a.settings = b.settings ∧ (∀ name, name ∈ a.enums ↔ name ∈ b.enums) ∧
      ∀ key, a.customTypes.lookup key = b.customTypes.lookup key := by
  simp only [agree, Bool.and_eq_true, beq_iff_eq, sameMembers_iff, sameEntries_iff, and_assoc]

end Options

end TargetTypes
