import TargetTypes.Proofs.TextField

/-!
# Definitions that lack a key

A definition needs a type and a name. Let the type be a text where it is there, and let operation
and schema type be texts or count as false; anything may stand for the rest. Then resolving has no
other fault than a missing key: whatever the names and templates look like, they are read, wrapped
and looked up. The type is looked up first, and so is the definition that comes first.

    a definition gives its field, or the first key that it lacks        (ofDefinition_of_readable)
    a list gives its fields, or the first key that one lacks                  (ofDefinitions_eq)
    the list stops at the first definition that lacks one          (ofDefinitions_of_readable)
-/

namespace TargetTypes.Field

/-! ## Algorithm -/

def hasKey (key : Text) (definition : Json) : Bool := (definition.get? key).isSome

/-- In the order they are looked up. -/
def neededKeys : List Text := ["type", "name"]

/-- The first key that a definition needs and has not. -/
def lacking? (definition : Json) : Option Text := neededKeys.find? (!hasKey · definition)

/-- An object whose type is a text where it is there; operation and schema type are texts, or count
as false. -/
structure Readable (definition : Json) : Prop where
  object : ∃ entries, definition = .obj entries
  type : ∀ value, definition.get? "type" = some value → ∃ declared, value = .str declared
  operation : (definition.getD "operation").TextOrFalsy
  schemaType : (definition.getD "graphqlType").TextOrFalsy

/-! ## One definition -/

theorem lacking?_eq_none_iff {definition : Json} :
    lacking? definition = none ↔ hasKey "type" definition ∧ hasKey "name" definition := by
  unfold lacking? neededKeys
  rw [List.find?_eq_none]
  simp only [List.forall_mem_cons, List.not_mem_nil, false_implies, implies_true, and_true,
    Bool.not_eq_true', Bool.not_eq_false]

/-- The type comes before the name. -/
theorem lacking?_eq_some_iff {definition : Json} {key : Text} :
    lacking? definition = some key ↔
      hasKey "type" definition = false ∧ key = "type" ∨
        hasKey "type" definition ∧ hasKey "name" definition = false ∧ key = "name" := by
  unfold lacking? neededKeys
  cases htype : hasKey "type" definition with
  | false => simp only [List.find?_cons, htype, Bool.not_false, Option.some.injEq, true_and,
      Bool.false_eq_true, false_and, or_false, @eq_comm _ key]
  | true =>
    cases hname : hasKey "name" definition with
    | false => simp only [List.find?_cons, htype, hname, Bool.not_true, Bool.not_false,
        Option.some.injEq, true_and, Bool.true_eq_false, false_and, false_or, @eq_comm _ key]
    | true => simp only [List.find?_cons, List.find?_nil, htype, hname, Bool.not_true, reduceCtorEq,
        Bool.true_eq_false, false_and, and_false, or_false]

theorem Readable.needed_eq_error {definition : Json} (h : Readable definition) {key : Text}
    (hkey : hasKey key definition = false) :
    needed key definition = .error (.missingKey key) := by
  obtain ⟨entries, rfl⟩ := h.object
  have hlookup : entries.lookup key = none :=
    Option.isNone_iff_eq_none.mp (Option.isSome_eq_false_iff.mp hkey)
  simp only [needed, hlookup]

theorem Readable.textual {definition : Json} (h : Readable definition)
    (htype : hasKey "type" definition) : Textual definition := by
  obtain ⟨value, hvalue⟩ := Option.isSome_iff_exists.mp htype
  obtain ⟨declared, rfl⟩ := h.type value hvalue
  exact ⟨⟨declared, hvalue⟩, h.operation, h.schemaType⟩

/-- The type is looked up before all else, the name once the type is resolved. -/
theorem ofDefinition_of_readable (lang : Language) (opts : Options) {definition : Json}
    (h : Readable definition) :
    ofDefinition lang opts definition =
      match lacking? definition with
      | none => .ok (ofTextual lang opts definition)
      | some key => .error (.missingKey key) := by
  cases hlacking : lacking? definition with
  | none =>
    obtain ⟨htype, hname⟩ := lacking?_eq_none_iff.mp hlacking
    exact ofDefinition_of_name lang opts (h.textual htype) hname
  | some key =>
    rcases lacking?_eq_some_iff.mp hlacking with ⟨htype, rfl⟩ | ⟨htype, hname, rfl⟩
    · rw [ofDefinition, h.needed_eq_error htype]
      rfl
    · rw [ofDefinition_of_textual lang opts (h.textual htype), h.needed_eq_error hname]
      rfl

/-! ## A list of definitions -/

/-- The run over the list stops at the first definition that lacks a key. -/
theorem ofDefinitions_eq (lang : Language) (opts : Options) {definitions : List Json}
    (h : ∀ definition ∈ definitions, Readable definition) :
    ofDefinitions lang opts definitions =
      match definitions.findSome? lacking? with
      | none => .ok (definitions.map (ofTextual lang opts))
      | some key => .error (.missingKey key) := by
  unfold ofDefinitions
  induction definitions with
  | nil => rfl
  | cons definition rest ih =>
    have hrest := ih fun d hm => h d (List.mem_cons_of_mem _ hm)
    rw [List.mapM_cons, hrest, ofDefinition_of_readable lang opts (h definition List.mem_cons_self),
      List.findSome?_cons]
    -- a fault further on is not reached where this definition lacks a key
    cases lacking? definition with
    | some key => rfl
    | none =>
      cases rest.findSome? lacking? with
      | none => rfl
      | some key => rfl

theorem ofDefinitions_eq_ok_iff (lang : Language) (opts : Options) {definitions : List Json}
    (h : ∀ definition ∈ definitions, Readable definition) {fields : List Field} :
    ofDefinitions lang opts definitions = .ok fields ↔
      (∀ definition ∈ definitions, hasKey "type" definition ∧ hasKey "name" definition) ∧
        fields = definitions.map (ofTextual lang opts) := by
  have hnone : definitions.findSome? lacking? = none ↔
      ∀ definition ∈ definitions, hasKey "type" definition ∧ hasKey "name" definition := by
    simp only [List.findSome?_eq_none_iff, lacking?_eq_none_iff]
  rw [ofDefinitions_eq lang opts h, ← hnone]
  cases definitions.findSome? lacking? with
  | none => simp only [Except.ok.injEq, true_and, @eq_comm _ fields]
  | some key => simp only [reduceCtorEq, false_and]

theorem ofDefinitions_eq_error_iff (lang : Language) (opts : Options) {definitions : List Json}
    (h : ∀ definition ∈ definitions, Readable definition) {fault : Fault} :
    ofDefinitions lang opts definitions = .error fault ↔
      ∃ key, definitions.findSome? lacking? = some key ∧ fault = .missingKey key := by
  rw [ofDefinitions_eq lang opts h]
  cases definitions.findSome? lacking? with
  | none => simp only [reduceCtorEq, false_and, exists_false]
  | some key =>
    simp only [Except.error.injEq, Option.some.injEq, exists_eq_left', @eq_comm _ fault]

/-- Resolving succeeds with one field for each definition, or stops at the first definition that
lacks its type or its name. No name and no template makes it fail. -/
theorem ofDefinitions_of_readable (lang : Language) (opts : Options) {definitions : List Json}
    (h : ∀ definition ∈ definitions, Readable definition) :
    ((∃ fields, ofDefinitions lang opts definitions = .ok fields) ↔
      ∀ definition ∈ definitions, hasKey "type" definition ∧ hasKey "name" definition) ∧
    (∀ fields, ofDefinitions lang opts definitions = .ok fields →
      definitions.map (ofDefinition lang opts) = fields.map .ok ∧
      definitions.map (·.get? "name") = fields.map fun field => some field.name) ∧
    ∀ fault, ofDefinitions lang opts definitions = .error fault ↔
      ∃ before definition after, definitions = before ++ definition :: after ∧
        (∀ earlier ∈ before, hasKey "type" earlier ∧ hasKey "name" earlier) ∧
        (hasKey "type" definition = false ∧ fault = .missingKey "type" ∨
          hasKey "type" definition ∧ hasKey "name" definition = false ∧
            fault = .missingKey "name") := by
  refine ⟨?_, fun fields hfields => ?_, fun fault => ?_⟩
  · simp only [ofDefinitions_eq_ok_iff lang opts h, exists_and_left, exists_eq, and_true]
  · obtain ⟨hkeys, rfl⟩ := (ofDefinitions_eq_ok_iff lang opts h).mp hfields
    simp only [List.map_map, List.map_inj_left, Function.comp_apply]
    refine ⟨fun definition hm => ?_, fun definition hm => ?_⟩
    · obtain ⟨htype, hname⟩ := hkeys definition hm
      exact ofDefinition_of_name lang opts ((h definition hm).textual htype) hname
    · obtain ⟨name, hget⟩ := Option.isSome_iff_exists.mp (hkeys definition hm).2
      rw [ofTextual, Json.getD, hget, Option.getD_some]
  · rw [ofDefinitions_eq_error_iff lang opts h]
    simp only [List.findSome?_eq_some_iff, lacking?_eq_some_iff, lacking?_eq_none_iff]
    constructor
    · rintro ⟨key, ⟨before, definition, after, hsplit, hlacking, hbefore⟩, rfl⟩
      refine ⟨before, definition, after, hsplit, hbefore, ?_⟩
      rcases hlacking with ⟨htype, rfl⟩ | ⟨htype, hname, rfl⟩
      · exact .inl ⟨htype, rfl⟩
      · exact .inr ⟨htype, hname, rfl⟩
    · rintro ⟨before, definition, after, hsplit, hbefore, ⟨htype, rfl⟩ | ⟨htype, hname, rfl⟩⟩
      · exact ⟨_, ⟨before, definition, after, hsplit, .inl ⟨htype, rfl⟩, hbefore⟩, rfl⟩
      · exact ⟨_, ⟨before, definition, after, hsplit, .inr ⟨htype, hname, rfl⟩, hbefore⟩, rfl⟩

/-- The type closes more brackets than it opens; a number says that it is a list. -/
def oddList : Json :=
  .obj [("type", .str "Seq[]]"), ("list", .int 1), ("operation", .str "QUERY"), ("name", .null)]

def nameless : Json := .obj [("type", .str "Option["), ("operation", .str "")]

/-- The list that cannot be read gives a field, also with a template that is cut off; the definition
after it has no name, and the one without any key is not looked at. -/
theorem ofDefinitions_stops_at_nameless :
    (∀ definition ∈ [oddList, nameless, .obj []], Readable definition) ∧
    (∃ field, ofDefinitions .scala { returnListType := some "fs2.Stream[%s" } [oddList] =
      .ok [field]) ∧
    ofDefinitions .scala { returnListType := some "fs2.Stream[%s" }
      [oddList, nameless, .obj []] = .error (.missingKey "name") := by
  have hodd : Readable oddList :=
    ⟨⟨_, rfl⟩, fun _ hvalue => ⟨"Seq[]]", (Option.some.inj hvalue).symm⟩, .inr ⟨"QUERY", rfl⟩,
      .inl rfl⟩
  have hnameless : Readable nameless :=
    ⟨⟨_, rfl⟩, fun _ hvalue => ⟨"Option[", (Option.some.inj hvalue).symm⟩, .inl rfl, .inl rfl⟩
  have hblank : Readable (.obj []) :=
    ⟨⟨_, rfl⟩, fun _ hvalue => (nomatch hvalue), .inl rfl, .inl rfl⟩
  have h : ∀ definition ∈ [oddList, nameless, .obj []], Readable definition := by
    simp only [List.forall_mem_cons]
    exact ⟨hodd, hnameless, hblank, List.forall_mem_nil _⟩
  have hkeys : ∀ definition ∈ [oddList], hasKey "type" definition ∧ hasKey "name" definition :=
    List.forall_mem_singleton.mpr ⟨rfl, rfl⟩
  refine ⟨h, ?_, ?_⟩
  · obtain ⟨hall, hfields, -⟩ := ofDefinitions_of_readable .scala
      { returnListType := some "fs2.Stream[%s" } (List.forall_mem_singleton.mpr hodd)
    obtain ⟨fields, hok⟩ := hall.mpr hkeys
    have hlength := congrArg List.length (hfields fields hok).1
    simp only [List.length_map, List.length_singleton] at hlength
    obtain ⟨field, rfl⟩ := List.length_eq_one_iff.mp hlength.symm
    exact ⟨field, hok⟩
  · obtain ⟨-, -, hfault⟩ :=
      ofDefinitions_of_readable .scala { returnListType := some "fs2.Stream[%s" } h
    exact (hfault _).mpr
      ⟨[oddList], nameless, [.obj []], rfl, hkeys, .inr ⟨rfl, rfl, rfl⟩⟩

end TargetTypes.Field
