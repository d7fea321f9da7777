import TargetTypes.Options.Reader

/-!
# Options and their spelling

A configuration spells options if each of its entries is null or gives the setting that its key
stands for, and every setting that is not at its default is given. Two keys stand for the enums.
The order of the entries is free, so is the order of the enums and of the custom types, and a
name may come more than once among the enums.

    options agree if they have every setting in common                     (agree_iff_sameIn)
    an option that is set leaves the other settings as they were           (sameIn_of_set)
    what was spelled is loaded                                             (ofJson_of_spells)
-/

namespace TargetTypes.Options

/-- What options hold. -/
inductive Setting where
  | language
  | optionalReturns
  | subscriptionType
  | returnListType
  | returnType
  | modelPrefix
  | modelSuffix
  | enums
  | package
  | modelPackage
  | customTypes
deriving DecidableEq, Repr

/-- The setting that a key stands for. -/
def Key.setting : Key → Setting
  | .language => .language
  | .optionalReturns => .optionalReturns
  | .subscriptionType => .subscriptionType
  | .returnListType => .returnListType
  | .returnType => .returnType
  | .modelPrefix => .modelPrefix
  | .modelSuffix => .modelSuffix
  | .scalaEnums => .enums
  | .enums => .enums
  | .package => .package
  | .modelPackage => .modelPackage
  | .customTypes => .customTypes

namespace Setting

/-- Both options have the same there: the enums as a set, the custom types by look-up. -/
def SameIn (a b : Options) : Setting → Prop
  | .language => a.language = b.language
  | .optionalReturns => a.optionalReturns = b.optionalReturns
  | .subscriptionType => a.subscriptionType = b.subscriptionType
  | .returnListType => a.returnListType = b.returnListType
  | .returnType => a.returnType = b.returnType
  | .modelPrefix => a.modelPrefix = b.modelPrefix
  | .modelSuffix => a.modelSuffix = b.modelSuffix
  | .enums => ∀ name, name ∈ a.enums ↔ name ∈ b.enums
  | .package => a.package = b.package
  | .modelPackage => a.modelPackage = b.modelPackage
  | .customTypes => ∀ key, a.customTypes.lookup key = b.customTypes.lookup key

/-- The value that a configuration has for the setting. -/
def Gives (opts : Options) : Setting → Json → Prop
  | .language, value => value = .str opts.language
  | .optionalReturns, value => value = .bool opts.optionalReturns
  | .subscriptionType, value => ∃ text, opts.subscriptionType = some text ∧ value = .str text
  | .returnListType, value => ∃ text, opts.returnListType = some text ∧ value = .str text
  | .returnType, value => ∃ text, opts.returnType = some text ∧ value = .str text
  | .modelPrefix, value => ∃ text, opts.modelPrefix = some text ∧ value = .str text
  | .modelSuffix, value => ∃ text, opts.modelSuffix = some text ∧ value = .str text
  | .enums, value => ∃ names : List Text, value = .arr (names.map .str) ∧
      ∀ name, name ∈ names ↔ name ∈ opts.enums
  | .package, value => ∃ text, opts.package = some text ∧ value = .str text
  | .modelPackage, value => ∃ text, opts.modelPackage = some text ∧ value = .str text
  | .customTypes, value => ∃ table : List (Text × Text),
      value = .obj (table.map fun entry => (entry.1, .str entry.2)) ∧
      ∀ key, table.lookup key = opts.customTypes.lookup key

/-- An entry that is not null has a key of the setting. -/
def GivenIn (entries : List (Text × Json)) (setting : Setting) : Prop :=
  ∃ key value, Key.setting key = setting ∧ (key.label, value) ∈ entries ∧ value ≠ .null

end Setting

/-- An entry is null, or gives the setting that its key stands for. -/
def SpellsEntry (opts : Options) (entry : Text × Json) : Prop :=
  ∃ key : Key, entry.1 = key.label ∧ (entry.2 = .null ∨ key.setting.Gives opts entry.2)

/-- The entries say what the options are, in any order. -/
structure Spells (opts : Options) (entries : List (Text × Json)) : Prop where
  entry : ∀ entry ∈ entries, SpellsEntry opts entry
  /-- What is not given is at its default. -/
  given : ∀ setting : Setting, setting.SameIn {} opts ∨ setting.GivenIn entries

/-! ## Settings -/

theorem Setting.SameIn.refl (opts : Options) (setting : Setting) : setting.SameIn opts opts := by
  cases setting <;> simp only [Setting.SameIn, iff_self, implies_true]

theorem Setting.SameIn.symm {a b : Options} {setting : Setting} (h : setting.SameIn a b) :
    setting.SameIn b a := by
  cases setting with
  | enums => exact fun name => (h name).symm
  | customTypes => exact fun key => (h key).symm
  | _ => exact Eq.symm h

theorem Setting.SameIn.trans {a b c : Options} {setting : Setting} (hab : setting.SameIn a b)
    (hbc : setting.SameIn b c) : setting.SameIn a c := by
  cases setting with
  | enums => exact fun name => (hab name).trans (hbc name)
  | customTypes => exact fun key => (hab key).trans (hbc key)
  | _ => exact Eq.trans hab hbc

theorem agree_iff_sameIn {a b : Options} :
    agree a b = true ↔ ∀ setting : Setting, setting.SameIn a b := by
  rw [agree_iff]
  constructor
  · rintro ⟨hsettings, henums, htypes⟩ setting
    simp only [settings, Options.mk.injEq] at hsettings
    cases setting with
    | enums => exact henums
    | customTypes => exact htypes
    | _ => simp only [Setting.SameIn, hsettings]
  · intro h
    refine ⟨?_, h .enums, h .customTypes⟩
    simp only [settings, Options.mk.injEq, and_true, true_and]
    exact ⟨h .language, h .optionalReturns, h .subscriptionType, h .returnListType, h .returnType,
      h .modelPrefix, h .modelSuffix, h .package, h .modelPackage⟩

/-! ## Setting one option -/

theorem exists_of_map_eq_ok {α β : Type} {r : Except Fault α} {f : α → β} {b : β}
    (h : r.map f = .ok b) : ∃ a, r = .ok a ∧ f a = b := by
  cases r with
  | error fault => cases h
  | ok a => exact ⟨a, rfl, Except.ok.inj h⟩

theorem sameIn_of_set {opts next : Options} {key : Key} {value : Json}
    (h : opts.set key value = .ok next) {setting : Setting} (hne : setting ≠ key.setting) :
    setting.SameIn next opts := by
  cases key with
  | optionalReturns =>
    cases h
    cases setting with
    | optionalReturns => exact absurd rfl hne
    | _ => simp only [Setting.SameIn, iff_self, implies_true]
  | _ =>
    obtain ⟨_, -, rfl⟩ := exists_of_map_eq_ok h
    cases setting <;>
      first | exact absurd rfl hne | simp only [Setting.SameIn, iff_self, implies_true]

theorem names?_map_str (names : List Text) : (Json.arr (names.map .str)).names? = some names := by
  induction names with
  | nil => rfl
  | cons name rest ih =>
    rw [Json.names?] at ih ⊢
    rw [List.map_cons, List.mapM_cons, ih]
    rfl

theorem table?_map_str (table : List (Text × Text)) :
    (Json.obj (table.map fun entry => (entry.1, .str entry.2))).table? = some table := by
  induction table with
  | nil => rfl
  | cons entry rest ih =>
    rw [Json.table?] at ih ⊢
    rw [List.map_cons, List.mapM_cons, ih]
    rfl

/-- A value that gives the setting of its key is taken over. -/
theorem set_of_gives {target : Options} (opts : Options) {key : Key} {value : Json}
    (h : key.setting.Gives target value) :
    ∃ next, opts.set key value = .ok next ∧ key.setting.SameIn next target := by
  cases key with
  | language =>
    obtain rfl : value = .str target.language := h
    exact ⟨_, rfl, rfl⟩
  | optionalReturns =>
    obtain rfl : value = .bool target.optionalReturns := h
    exact ⟨_, rfl, rfl⟩
  | scalaEnums | enums =>
    obtain ⟨names, rfl, hnames⟩ := h
    refine ⟨{ opts with enums := names }, ?_, hnames⟩
    simp only [set, namesOf, names?_map_str]
    rfl
  | customTypes =>
    obtain ⟨table, rfl, htable⟩ := h
    refine ⟨{ opts with customTypes := table }, ?_, htable⟩
    simp only [set, tableOf, table?_map_str]
    rfl
  | _ =>
    obtain ⟨text, htext, rfl⟩ := h
    exact ⟨_, rfl, htext.symm⟩

/-! ## Reading the entries -/

theorem Key.label_injective {key other : Key} (h : key.label = other.label) : key = other := by
  have := Key.ofLabel?_label key
  rw [h, Key.ofLabel?_label other, Option.some.injEq] at this
  exact this.symm

theorem setEntry_label (opts : Options) (key : Key) {value : Json} (hne : value ≠ .null) :
    opts.setEntry (key.label, value) = opts.set key value := by
  cases value with
  | null => exact absurd rfl hne
  | _ => simp only [setEntry, Key.ofLabel?_label]

theorem Setting.Gives.ne_null {target : Options} {setting : Setting} {value : Json}
    (h : setting.Gives target value) : value ≠ .null := by
  rintro rfl
  cases setting with
  | language | optionalReturns => cases h
  | _ =>
    obtain ⟨_, hvalue⟩ := h
    simp at hvalue

/-- One entry: what was right stays right, and what the entry gives becomes right. -/
theorem setEntry_of_spellsEntry {target : Options} (opts : Options) {entry : Text × Json}
    (h : SpellsEntry target entry) :
    ∃ next, opts.setEntry entry = .ok next ∧ ∀ setting : Setting,
      setting.SameIn opts target ∨ setting.GivenIn [entry] → setting.SameIn next target := by
  obtain ⟨name, value⟩ := entry
  obtain ⟨key, hname, hvalue⟩ := h
  obtain rfl : name = key.label := hname
  rcases hvalue with hnull | hgives
  · obtain rfl : value = .null := hnull
    refine ⟨opts, rfl, fun setting hsetting => ?_⟩
    rcases hsetting with hsame | ⟨_, _, -, hmem, hne⟩
    · exact hsame
    · exact absurd (congrArg Prod.snd (List.mem_singleton.mp hmem)) hne
  · obtain ⟨next, hset, hkey⟩ := set_of_gives opts hgives
    refine ⟨next, (opts.setEntry_label key hgives.ne_null).trans hset, fun setting hsetting => ?_⟩
    by_cases he : setting = key.setting
    · rw [he]
      exact hkey
    · rcases hsetting with hsame | ⟨other, _, hother, hmem, -⟩
      · exact (sameIn_of_set hset he).trans hsame
      · have hlabel := congrArg Prod.fst (List.mem_singleton.mp hmem)
        rw [Key.label_injective hlabel] at hother
        exact absurd hother.symm he

/-- The run over all entries, by the same invariant. -/
theorem foldlM_setEntry_of_spellsEntry {target : Options} {entries : List (Text × Json)}
    (h : ∀ entry ∈ entries, SpellsEntry target entry) (opts : Options) :
    ∃ loaded, entries.foldlM setEntry opts = .ok loaded ∧ ∀ setting : Setting,
      setting.SameIn opts target ∨ setting.GivenIn entries → setting.SameIn loaded target := by
  induction entries generalizing opts with
  | nil =>
    refine ⟨opts, rfl, fun setting hsetting => ?_⟩
    rcases hsetting with hsame | ⟨_, _, -, hmem, -⟩
    · exact hsame
    · cases hmem
  | cons entry rest ih =>
    obtain ⟨next, hnext, hstep⟩ := setEntry_of_spellsEntry opts (h entry List.mem_cons_self)
    obtain ⟨loaded, hloaded, hrest⟩ := ih (fun e hm => h e (List.mem_cons_of_mem _ hm)) next
    refine ⟨loaded, ?_, fun setting hsetting => ?_⟩
    · rw [List.foldlM_cons, hnext]
      exact hloaded
    · apply hrest
      rcases hsetting with hsame | ⟨key, value, hkey, hmem, hne⟩
      · exact Or.inl (hstep setting (Or.inl hsame))
      · rcases List.mem_cons.mp hmem with he | hmem
        · exact Or.inl (hstep setting
            (Or.inr ⟨key, value, hkey, List.mem_singleton.mpr he, hne⟩))
        · exact Or.inr ⟨key, value, hkey, hmem, hne⟩

theorem unknownNames_of_known {names : List Text} (h : ∀ name ∈ names, ∃ key : Key, name = key.label) :
    unknownNames names = [] := by
  have hknown : (names.filter fun name => (Key.ofLabel? name).isNone) = [] := by
    rw [List.filter_eq_nil_iff]
    intro name hm
    obtain ⟨key, rfl⟩ := h name hm
    rw [Key.ofLabel?_label]
    exact Bool.false_ne_true
  rw [unknownNames, hknown, List.eraseDups_nil, List.mergeSort_nil]

/-- A configuration that spells options is loaded, and gives options that agree with them. -/
theorem ofJson_of_spells {opts : Options} {entries : List (Text × Json)} (h : Spells opts entries) :
    ∃ loaded, ofJson (.obj entries) = .ok loaded ∧ agree loaded opts = true := by
  obtain ⟨loaded, hloaded, hsame⟩ := foldlM_setEntry_of_spellsEntry h.entry {}
  have hknown : unknownNames (entries.map Prod.fst) = [] := by
    apply unknownNames_of_known
    intro name hm
    obtain ⟨entry, hentry, rfl⟩ := List.mem_map.mp hm
    obtain ⟨key, hkey, -⟩ := h.entry entry hentry
    exact ⟨key, hkey⟩
  refine ⟨loaded, ?_, agree_iff_sameIn.mpr fun setting => hsame setting (h.given setting)⟩
  rw [ofJson, ofEntries, hknown]
  exact hloaded

/-- Three settings that are not at their default. -/
def threeSettings : Options where
  optionalReturns := true
  enums := ["Color", "Size"]
  customTypes := [("Int!", "Int")]

/-- The enums are under the one key, one of them twice, and null under the other. -/
def threeEntries : List (Text × Json) := [
  ("useOptionalForNullableReturnTypes", .bool true),
  ("enumImportItSelfInScala", .arr [.str "Size", .str "Color", .str "Size"]),
  ("customTypesMapping", .obj [("Int!", .str "Int")]),
  ("packageName", .null), ("enumSelfImportSet", .null)]

theorem ofJson_threeEntries :
    Spells threeSettings threeEntries ∧
      ∃ loaded, ofJson (.obj threeEntries) = .ok loaded ∧ agree loaded threeSettings = true := by
  have h : Spells threeSettings threeEntries := by
    refine ⟨fun entry hm => ?_, fun setting => ?_⟩
    · simp only [threeEntries, List.mem_cons, List.not_mem_nil, or_false] at hm
      rcases hm with rfl | rfl | rfl | rfl | rfl
      · exact ⟨.optionalReturns, rfl, Or.inr rfl⟩
      · refine ⟨.scalaEnums, rfl, Or.inr ⟨["Size", "Color", "Size"], rfl, fun name => ?_⟩⟩
        simp only [threeSettings, List.mem_cons, List.not_mem_nil, or_false]
        grind
      · exact ⟨.customTypes, rfl, Or.inr ⟨[("Int!", "Int")], rfl, fun _ => rfl⟩⟩
      · exact ⟨.package, rfl, Or.inl rfl⟩
      · exact ⟨.enums, rfl, Or.inl rfl⟩
    · cases setting with
      | optionalReturns => exact Or.inr ⟨.optionalReturns, _, rfl, .head _, Json.noConfusion⟩
      | enums => exact Or.inr ⟨.scalaEnums, _, rfl, .tail _ (.head _), Json.noConfusion⟩
      | customTypes =>
        exact Or.inr ⟨.customTypes, _, rfl, .tail _ (.tail _ (.head _)), Json.noConfusion⟩
      | _ => exact Or.inl rfl
  exact ⟨h, ofJson_of_spells h⟩

end TargetTypes.Options
