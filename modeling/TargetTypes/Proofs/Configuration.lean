import TargetTypes.Proofs.Spelling

/-!
# Configurations, refused and loaded

Any object as a configuration. Names that no option has are reported all together, whatever the
entries hold. Otherwise the first entry in written order whose value has not the shape of its option
is reported; and without one the options are loaded, each setting from the value that is given last
for it. A null gives none.

Whether an entry is refused does not depend on what was read before it. So the order of the entries
decides which of them is reported, and between the two keys of the enums, but nothing else.

    unknown names come once each, ascending        (mem_unknownNames, pairwise_unknownNames)
    an entry is refused for its shape, at any time                   (setEntry_eq_error_iff)
    reading stops at the first entry that is refused          (foldlM_setEntry_eq_error_iff)
    a setting is loaded from the last value that is given         (loadedFrom_of_foldlM)
    all of it, for a configuration                                             (ofJson_obj)
-/

namespace TargetTypes

namespace Text

/-! ## Order by code point -/

/-- Before in the order by code point: smaller at the first difference, or a proper beginning. -/
def Before (a b : Text) : Prop := List.Lex (fun c d : CodePoint => c.toNat < d.toNat) a b

theorem le_trans {a b c : Text} (hab : le a b = true) (hbc : le b c = true) : le a c = true := by
  induction a generalizing b c with
  | nil => rfl
  | cons x as ih =>
    cases b with
    | nil => cases hab
    | cons y bs =>
      cases c with
      | nil => cases hbc
      | cons z cs =>
        simp only [le] at hab hbc ⊢
        by_cases hxy : x = y
        · subst hxy
          rw [if_pos rfl] at hab
          by_cases hxz : x = z
          · rw [if_pos hxz] at hbc ⊢
            exact ih hab hbc
          · rw [if_neg hxz] at hbc ⊢
            exact hbc
        · rw [if_neg hxy, decide_eq_true_eq] at hab
          by_cases hyz : y = z
          · subst hyz
            rw [if_neg hxy, decide_eq_true_eq]
            exact hab
          · rw [if_neg hyz, decide_eq_true_eq] at hbc
            have hlt := Nat.lt_trans hab hbc
            have hxz : x ≠ z := by
              rintro rfl
              exact Nat.lt_irrefl _ hlt
            rw [if_neg hxz, decide_eq_true_eq]
            exact hlt

theorem before_of_le_of_ne {a b : Text} (h : le a b = true) (hne : a ≠ b) : Before a b := by
  induction a generalizing b with
  | nil =>
    cases b with
    | nil => exact absurd rfl hne
    | cons d bs => exact .nil
  | cons c as ih =>
    cases b with
    | nil => cases h
    | cons d bs =>
      simp only [le] at h
      by_cases hcd : c = d
      · subst hcd
        rw [if_pos rfl] at h
        exact .cons (ih h fun he => hne (congrArg _ he))
      · rw [if_neg hcd, decide_eq_true_eq] at h
        exact .rel h

end Text

/-- The value, unless it is null. -/
def Json.given? : Json → Option Json
  | .null => none
  | value => some value

theorem Json.given?_eq_some_iff {value other : Json} :
    value.given? = some other ↔ value = other ∧ other ≠ .null := by
  constructor
  · intro h
    cases value with
    | null => cases h
    | _ =>
      cases h
      exact ⟨rfl, Json.noConfusion⟩
  · rintro ⟨rfl, hne⟩
    cases value with
    | null => exact absurd rfl hne
    | _ => rfl

namespace Options

/-! ## Unknown names -/

/-- A name that no option has. -/
def IsUnknown (name : Text) : Prop := ∀ key : Key, name ≠ key.label

theorem Key.mem_all (key : Key) : key ∈ Key.all := by
  cases key <;> decide

theorem ofLabel?_eq_none_iff {name : Text} : Key.ofLabel? name = none ↔ IsUnknown name := by
  rw [Key.ofLabel?, List.find?_eq_none]
  constructor
  · intro h key he
    exact h key key.mem_all (beq_iff_eq.mpr he.symm)
  · intro h key _ he
    exact h key (beq_iff_eq.mp he).symm

theorem eq_label_of_ofLabel? {name : Text} {key : Key} (h : Key.ofLabel? name = some key) :
    name = key.label := by
  have := List.find?_some h
  exact (beq_iff_eq.mp this).symm

theorem nodup_eraseDups (names : List Text) : names.eraseDups.Nodup := by
  match names with
  | [] => exact List.nodup_nil
  | name :: rest =>
    rw [List.eraseDups_cons, List.nodup_cons]
    refine ⟨fun hm => ?_, nodup_eraseDups _⟩
    have := (List.mem_filter.mp (List.mem_eraseDups.mp hm)).2
    simp at this
termination_by names.length
decreasing_by exact Nat.lt_succ_of_le (List.length_filter_le _ _)

theorem mem_unknownNames {names : List Text} {name : Text} :
    name ∈ unknownNames names ↔ name ∈ names ∧ IsUnknown name := by
  rw [unknownNames, (List.mergeSort_perm _ _).mem_iff, List.mem_eraseDups, List.mem_filter,
    Option.isNone_iff_eq_none, ofLabel?_eq_none_iff]

/-- Sorted, and no name twice. -/
theorem pairwise_unknownNames (names : List Text) : (unknownNames names).Pairwise Text.Before := by
  have hsorted : (unknownNames names).Pairwise fun a b => Text.le a b = true :=
    @List.pairwise_mergeSort _ Text.le (fun _ _ _ => Text.le_trans) Text.le_total _
  have hnodup : (unknownNames names).Nodup :=
    (List.mergeSort_perm _ _).nodup_iff.mpr (nodup_eraseDups _)
  exact (hsorted.and hnodup).imp fun h => Text.before_of_le_of_ne h.1 h.2

/-! ## Shapes -/

/-- The value has the shape that the option asks for. The flag takes any value. -/
def Key.Fits : Key → Json → Prop
  | .optionalReturns, _ => True
  | .scalaEnums, value => ∃ names : List Text, value = .arr (names.map .str)
  | .enums, value => ∃ names : List Text, value = .arr (names.map .str)
  | .customTypes, value => ∃ table : List (Text × Text),
      value = .obj (table.map fun entry => (entry.1, .str entry.2))
  | _, value => ∃ text, value = .str text

/-- The report on a value of another shape. -/
def Key.refusal : Key → Json → Fault
  | .scalaEnums, _ => .notTypeNames Key.scalaEnums.label
  | .enums, _ => .notTypeNames Key.enums.label
  | .customTypes, _ => .notTypeTable Key.customTypes.label
  | key, value => .notText key.label value.kind

/-- The setting is what the value says. Only `true` sets the flag. -/
def Setting.TakenFrom (opts : Options) : Setting → Json → Prop
  | .optionalReturns, value => opts.optionalReturns = true ↔ value = .bool true
  | setting, value => setting.Gives opts value

/-- What a list of readings gives can be written back as the list. -/
theorem eq_map_of_mapM {α β : Type} {read : α → Option β} {write : β → α}
    (hread : ∀ a b, read a = some b → a = write b) {xs : List α} {ys : List β}
    (h : xs.mapM read = some ys) : xs = ys.map write := by
  induction xs generalizing ys with
  | nil =>
    cases h
    rfl
  | cons x rest ih =>
    rw [List.mapM_cons] at h
    obtain ⟨y, hy, h⟩ := Option.bind_eq_some_iff.mp h
    obtain ⟨others, hothers, h⟩ := Option.bind_eq_some_iff.mp h
    cases h
    rw [List.map_cons, hread x y hy, ih hothers]

theorem eq_str_of_text? {value : Json} {text : Text} (h : value.text? = some text) :
    value = .str text := by
  cases value with
  | str s => exact congrArg Json.str (Option.some.inj h)
  | _ => cases h

theorem eq_arr_of_names? {value : Json} {names : List Text} (h : value.names? = some names) :
    value = .arr (names.map .str) := by
  cases value with
  | arr items => exact congrArg Json.arr (eq_map_of_mapM (fun _ _ => eq_str_of_text?) h)
  | _ => cases h

theorem eq_obj_of_table? {value : Json} {table : List (Text × Text)}
    (h : value.table? = some table) :
    value = .obj (table.map fun entry => (entry.1, .str entry.2)) := by
  cases value with
  | obj entries =>
    refine congrArg Json.obj (eq_map_of_mapM (fun entry read hread => ?_) h)
    obtain ⟨text, htext, rfl⟩ := Option.map_eq_some_iff.mp hread
    exact Prod.ext rfl (eq_str_of_text? htext)
  | _ => cases h

theorem textOf_of_not_text {key : Key} {value : Json} (h : ¬ ∃ text, value = .str text) :
    textOf key value = .error (.notText key.label value.kind) := by
  cases hv : value.text? with
  | none => simp only [textOf, hv]
  | some text => exact absurd ⟨text, eq_str_of_text? hv⟩ h

theorem namesOf_of_not_names {key : Key} {value : Json}
    (h : ¬ ∃ names : List Text, value = .arr (names.map .str)) :
    namesOf key value = .error (.notTypeNames key.label) := by
  cases hv : value.names? with
  | none => simp only [namesOf, hv]
  | some names => exact absurd ⟨names, eq_arr_of_names? hv⟩ h

theorem tableOf_of_not_table {key : Key} {value : Json}
    (h : ¬ ∃ table : List (Text × Text),
      value = .obj (table.map fun entry => (entry.1, .str entry.2))) :
    tableOf key value = .error (.notTypeTable key.label) := by
  cases hv : value.table? with
  | none => simp only [tableOf, hv]
  | some table => exact absurd ⟨table, eq_obj_of_table? hv⟩ h

theorem set_of_not_fits (opts : Options) {key : Key} {value : Json} (h : ¬ key.Fits value) :
    opts.set key value = .error (key.refusal value) := by
  cases key with
  | optionalReturns => exact absurd trivial h
  | scalaEnums | enums =>
    simp only [set, namesOf_of_not_names h]
    rfl
  | customTypes =>
    simp only [set, tableOf_of_not_table h]
    rfl
  | _ =>
    simp only [set, textOf_of_not_text h]
    rfl

theorem set_of_fits (opts : Options) {key : Key} {value : Json} (h : key.Fits value) :
    ∃ next, opts.set key value = .ok next ∧ key.setting.TakenFrom next value := by
  cases key with
  | language =>
    obtain ⟨text, rfl⟩ := h
    exact ⟨_, rfl, rfl⟩
  | optionalReturns =>
    refine ⟨_, rfl, ?_⟩
    cases value <;> simp [Key.setting, Setting.TakenFrom]
  | scalaEnums | enums =>
    obtain ⟨names, rfl⟩ := h
    refine ⟨{ opts with enums := names }, ?_, names, rfl, fun _ => Iff.rfl⟩
    simp only [set, namesOf, names?_map_str]
    rfl
  | customTypes =>
    obtain ⟨table, rfl⟩ := h
    refine ⟨{ opts with customTypes := table }, ?_, table, rfl, fun _ => rfl⟩
    simp only [set, tableOf, table?_map_str]
    rfl
  | _ =>
    obtain ⟨text, rfl⟩ := h
    exact ⟨_, rfl, text, rfl, rfl⟩

theorem takenFrom_of_set {opts next : Options} {key : Key} {value : Json}
    (h : opts.set key value = .ok next) : key.setting.TakenFrom next value := by
  by_cases hfits : key.Fits value
  · obtain ⟨taken, htaken, hfrom⟩ := set_of_fits opts hfits
    obtain rfl := Except.ok.inj (h.symm.trans htaken)
    exact hfrom
  · rw [set_of_not_fits opts hfits] at h
    cases h

/-! ## What is given and what is loaded -/

theorem Setting.TakenFrom.of_sameIn {a b : Options} {setting : Setting} {value : Json}
    (hsame : setting.SameIn a b) (h : setting.TakenFrom b value) : setting.TakenFrom a value := by
  cases setting with
  | enums =>
    obtain ⟨names, hvalue, hnames⟩ := h
    exact ⟨names, hvalue, fun name => (hnames name).trans (hsame name).symm⟩
  | customTypes =>
    obtain ⟨table, hvalue, htable⟩ := h
    exact ⟨table, hvalue, fun key => (htable key).trans (hsame key).symm⟩
  | _ =>
    simp only [Setting.SameIn] at hsame
    simpa only [Setting.TakenFrom, Setting.Gives, hsame] using h

/-- A value leaves no choice. -/
theorem Setting.TakenFrom.sameIn {a b : Options} {setting : Setting} {value : Json}
    (ha : setting.TakenFrom a value) (hb : setting.TakenFrom b value) : setting.SameIn a b := by
  cases setting with
  | language => exact Json.str.inj (Eq.trans (Eq.symm ha) hb)
  | optionalReturns => exact Bool.eq_iff_iff.mpr (Iff.trans ha (Iff.symm hb))
  | enums =>
    obtain ⟨names, rfl, hnames⟩ := ha
    obtain ⟨others, hvalue, hothers⟩ := hb
    have hread := congrArg Json.names? hvalue
    rw [names?_map_str, names?_map_str] at hread
    obtain rfl := Option.some.inj hread
    exact fun name => (hnames name).symm.trans (hothers name)
  | customTypes =>
    obtain ⟨table, rfl, htable⟩ := ha
    obtain ⟨others, hvalue, hothers⟩ := hb
    have hread := congrArg Json.table? hvalue
    rw [table?_map_str, table?_map_str] at hread
    obtain rfl := Option.some.inj hread
    exact fun key => (htable key).symm.trans (hothers key)
  | _ =>
    obtain ⟨text, hta, rfl⟩ := ha
    obtain ⟨other, htb, hvalue⟩ := hb
    obtain rfl := Json.str.inj hvalue
    exact hta.trans htb.symm

/-- As it was before without a value, and taken from the value with one. -/
def Setting.LoadedFrom (loaded before : Options) (setting : Setting) : Option Json → Prop
  | none => setting.SameIn loaded before
  | some value => setting.TakenFrom loaded value

/-- The value that an entry gives for a setting. -/
def Setting.valueIn? (setting : Setting) (entry : Text × Json) : Option Json :=
  match Key.ofLabel? entry.1 with
  | some key => if key.setting = setting then entry.2.given? else none
  | none => none

/-- All values that are given for a setting, in written order. -/
def Setting.valuesIn (setting : Setting) (entries : List (Text × Json)) : List Json :=
  entries.filterMap setting.valueIn?

/-- The entry is not null, and its value has not the shape of its option: it is refused with the
report on that. -/
def RefusedWith (entry : Text × Json) (fault : Fault) : Prop :=
  ∃ key : Key, entry.1 = key.label ∧ entry.2 ≠ .null ∧ ¬ key.Fits entry.2 ∧
    fault = key.refusal entry.2

def Refused (entry : Text × Json) : Prop := ∃ fault, RefusedWith entry fault

theorem Setting.valueIn?_eq_some_iff {setting : Setting} {entry : Text × Json} {value : Json} :
    setting.valueIn? entry = some value ↔
      ∃ key : Key, entry = (key.label, value) ∧ value ≠ .null ∧ key.setting = setting := by
  obtain ⟨name, given⟩ := entry
  constructor
  · intro h
    unfold valueIn? at h
    split at h
    next key hkey =>
      split at h
      next hsetting =>
        obtain ⟨rfl, hne⟩ := Json.given?_eq_some_iff.mp h
        exact ⟨key, Prod.ext (eq_label_of_ofLabel? hkey) rfl, hne, hsetting⟩
      next => cases h
    next => cases h
  · rintro ⟨key, hentry, hne, rfl⟩
    cases hentry
    rw [valueIn?, Key.ofLabel?_label]
    exact (if_pos rfl).trans (Json.given?_eq_some_iff.mpr ⟨rfl, hne⟩)

theorem Setting.LoadedFrom.trans {a b c : Options} {setting : Setting} {later earlier : Option Json}
    (hlater : setting.LoadedFrom a b later) (hearlier : setting.LoadedFrom b c earlier) :
    setting.LoadedFrom a c (later.or earlier) := by
  cases later with
  | some value => exact hlater
  | none =>
    cases earlier with
    | none => exact SameIn.trans hlater hearlier
    | some value => exact TakenFrom.of_sameIn hlater hearlier

theorem Setting.getLast?_valuesIn_cons (setting : Setting) (entry : Text × Json)
    (rest : List (Text × Json)) :
    (setting.valuesIn (entry :: rest)).getLast? =
      (setting.valuesIn rest).getLast?.or (setting.valueIn? entry) := by
  unfold valuesIn
  rw [List.filterMap_cons]
  cases setting.valueIn? entry with
  | none => exact Option.or_none.symm
  | some value =>
    rw [List.getLast?_cons]
    cases (rest.filterMap setting.valueIn?).getLast? <;> rfl

/-! ### One entry -/

/-- An entry is passed over, or it sets its option. -/
theorem setEntry_cases (opts : Options) (entry : Text × Json) :
    (opts.setEntry entry = .ok opts ∧ ¬ Refused entry) ∨
      ∃ (key : Key) (value : Json), entry = (key.label, value) ∧ value ≠ .null ∧
        opts.setEntry entry = opts.set key value := by
  obtain ⟨name, value⟩ := entry
  by_cases hnull : value = .null
  · subst hnull
    exact Or.inl ⟨rfl, fun ⟨_, _, _, hne, _⟩ => hne rfl⟩
  · cases hkey : Key.ofLabel? name with
    | none =>
      refine Or.inl ⟨?_, ?_⟩
      · cases value <;> simp only [setEntry, hkey]
      · rintro ⟨_, key, hname, -⟩
        exact ofLabel?_eq_none_iff.mp hkey key hname
    | some key =>
      obtain rfl := eq_label_of_ofLabel? hkey
      exact Or.inr ⟨key, value, rfl, hnull, opts.setEntry_label key hnull⟩

theorem Key.not_refused_of_fits (key : Key) {value : Json} (h : key.Fits value) :
    ¬ Refused (key.label, value) := by
  rintro ⟨_, other, hlabel, -, hnot, -⟩
  obtain rfl := Key.label_injective hlabel
  exact hnot h

theorem setEntry_eq_error_iff {opts : Options} {entry : Text × Json} {fault : Fault} :
    opts.setEntry entry = .error fault ↔ RefusedWith entry fault := by
  rcases opts.setEntry_cases entry with ⟨hset, hnot⟩ | ⟨key, value, rfl, hne, hset⟩
  · rw [hset]
    refine iff_of_false (fun h => ?_) fun h => hnot ⟨fault, h⟩
    cases h
  · rw [hset]
    by_cases hfits : key.Fits value
    · obtain ⟨taken, htaken, -⟩ := set_of_fits opts hfits
      rw [htaken]
      refine iff_of_false (fun h => ?_) fun h => key.not_refused_of_fits hfits ⟨fault, h⟩
      cases h
    · rw [set_of_not_fits opts hfits]
      constructor
      · intro h
        exact ⟨key, rfl, hne, hfits, (Except.error.inj h).symm⟩
      · rintro ⟨other, hlabel, -, -, rfl⟩
        obtain rfl := Key.label_injective hlabel
        rfl

theorem loadedFrom_of_setEntry {opts next : Options} {entry : Text × Json}
    (h : opts.setEntry entry = .ok next) (setting : Setting) :
    setting.LoadedFrom next opts (setting.valueIn? entry) := by
  cases hvalue : setting.valueIn? entry with
  | some value =>
    obtain ⟨key, rfl, hne, rfl⟩ := Setting.valueIn?_eq_some_iff.mp hvalue
    rw [opts.setEntry_label key hne] at h
    exact takenFrom_of_set h
  | none =>
    rcases opts.setEntry_cases entry with ⟨hset, -⟩ | ⟨key, value, rfl, hne, hset⟩
    · rw [hset] at h
      cases h
      exact Setting.SameIn.refl opts setting
    · rw [hset] at h
      refine sameIn_of_set h fun hsetting => ?_
      rw [Setting.valueIn?_eq_some_iff.mpr ⟨key, rfl, hne, hsetting.symm⟩] at hvalue
      cases hvalue

/-! ### All entries -/

theorem foldlM_setEntry_of_not_refused {entries : List (Text × Json)}
    (h : ∀ entry ∈ entries, ¬ Refused entry) (opts : Options) :
    ∃ loaded, entries.foldlM setEntry opts = .ok loaded := by
  induction entries generalizing opts with
  | nil => exact ⟨opts, rfl⟩
  | cons entry rest ih =>
    cases hentry : opts.setEntry entry with
    | error fault =>
      exact absurd ⟨fault, setEntry_eq_error_iff.mp hentry⟩ (h entry List.mem_cons_self)
    | ok next =>
      rw [List.foldlM_cons, hentry]
      exact ih (fun e hm => h e (List.mem_cons_of_mem _ hm)) next

theorem not_refused_of_foldlM_setEntry {entries : List (Text × Json)} {opts loaded : Options}
    (h : entries.foldlM setEntry opts = .ok loaded) : ∀ entry ∈ entries, ¬ Refused entry := by
  induction entries generalizing opts with
  | nil => exact List.forall_mem_nil _
  | cons entry rest ih =>
    rw [List.foldlM_cons] at h
    obtain ⟨next, hentry, hrest⟩ := exists_of_bind_eq_ok h
    refine List.forall_mem_cons.mpr ⟨?_, ih hrest⟩
    rintro ⟨fault, hfault⟩
    rw [setEntry_eq_error_iff.mpr hfault] at hentry
    cases hentry

/-- Whatever was read before, the first entry that is refused ends the run. -/
theorem foldlM_setEntry_eq_error_iff {entries : List (Text × Json)} {opts : Options}
    {fault : Fault} :
    entries.foldlM setEntry opts = .error fault ↔ ∃ before entry after,
      entries = before ++ entry :: after ∧ (∀ e ∈ before, ¬ Refused e) ∧ RefusedWith entry fault := by
  constructor
  · intro h
    induction entries generalizing opts with
    | nil => cases h
    | cons entry rest ih =>
      rw [List.foldlM_cons] at h
      rcases error_or_exists_of_bind_eq_error h with hentry | ⟨next, hentry, hrest⟩
      · exact ⟨[], entry, rest, rfl, List.forall_mem_nil _, setEntry_eq_error_iff.mp hentry⟩
      · obtain ⟨before, refused, after, rfl, hbefore, hrefused⟩ := ih hrest
        refine ⟨entry :: before, refused, after, rfl, List.forall_mem_cons.mpr ⟨?_, hbefore⟩,
          hrefused⟩
        rintro ⟨other, hother⟩
        rw [setEntry_eq_error_iff.mpr hother] at hentry
        cases hentry
  · rintro ⟨before, entry, after, rfl, hbefore, hrefused⟩
    obtain ⟨loaded, hloaded⟩ := foldlM_setEntry_of_not_refused hbefore opts
    rw [List.foldlM_append, hloaded]
    show (entry :: after).foldlM setEntry loaded = .error fault
    rw [List.foldlM_cons, setEntry_eq_error_iff.mpr hrefused]
    rfl

/-- The run over all entries: the last value for a setting is what counts. -/
theorem loadedFrom_of_foldlM {entries : List (Text × Json)} {opts loaded : Options}
    (h : entries.foldlM setEntry opts = .ok loaded) (setting : Setting) :
    setting.LoadedFrom loaded opts (setting.valuesIn entries).getLast? := by
  induction entries generalizing opts with
  | nil =>
    cases h
    exact Setting.SameIn.refl loaded setting
  | cons entry rest ih =>
    rw [List.foldlM_cons] at h
    obtain ⟨next, hentry, hrest⟩ := exists_of_bind_eq_ok h
    rw [setting.getLast?_valuesIn_cons]
    -- what the rest gives comes later, and counts before what this entry gives
    exact (ih hrest).trans (loadedFrom_of_setEntry hentry setting)

/-! ### Entries in another order -/

/-- Both keys of the enums are there, and neither is null. -/
def GivesEnumsTwice (entries : List (Text × Json)) : Prop :=
  (∃ value, (Key.scalaEnums.label, value) ∈ entries ∧ value ≠ .null) ∧
    ∃ value, (Key.enums.label, value) ∈ entries ∧ value ≠ .null

/-- Only the enums have two keys. -/
theorem Key.eq_or_enums_of_setting_eq {key other : Key} (h : key.setting = other.setting) :
    key = other ∨ key = .scalaEnums ∧ other = .enums ∨ key = .enums ∧ other = .scalaEnums := by
  cases key <;> cases other <;> simp_all [Key.setting]

section

variable {entries other : List (Text × Json)} {setting : Setting}
  (hkeys : (entries.map Prod.fst).Nodup)
  (honce : setting = .enums → ¬ GivesEnumsTwice entries)

include hkeys honce

/-- No two entries give a value for the setting. -/
theorem pairwise_valuesIn : (setting.valuesIn entries).Pairwise fun _ _ => False := by
  rw [Setting.valuesIn, List.pairwise_filterMap]
  refine (List.pairwise_map.mp hkeys).imp_of_mem ?_
  intro a b ha hb hne value hvalue later hlater
  obtain ⟨key, rfl, hnotNull, hkey⟩ := Setting.valueIn?_eq_some_iff.mp hvalue
  obtain ⟨key', rfl, hnotNull', hkey'⟩ := Setting.valueIn?_eq_some_iff.mp hlater
  -- two keys for one setting are those of the enums
  rcases Key.eq_or_enums_of_setting_eq (hkey.trans hkey'.symm) with rfl | ⟨rfl, rfl⟩ | ⟨rfl, rfl⟩
  · exact hne rfl
  · exact honce hkey.symm ⟨⟨value, ha, hnotNull⟩, ⟨later, hb, hnotNull'⟩⟩
  · exact honce hkey.symm ⟨⟨later, hb, hnotNull'⟩, ⟨value, ha, hnotNull⟩⟩

theorem valuesIn_eq_of_perm (h : entries.Perm other) :
    setting.valuesIn entries = setting.valuesIn other := by
  have hsingle := pairwise_valuesIn hkeys honce
  have hperm : (setting.valuesIn entries).Perm (setting.valuesIn other) := h.filterMap _
  exact hperm.eq_of_pairwise (fun _ _ _ _ hle => hle.elim) hsingle
    (hperm.pairwise hsingle fun hle => hle.elim)

end

theorem Setting.LoadedFrom.sameIn {a b : Options} {setting : Setting} {value : Option Json}
    (ha : setting.LoadedFrom a {} value) (hb : setting.LoadedFrom b {} value) :
    setting.SameIn a b := by
  cases value with
  | none => exact SameIn.trans ha (SameIn.symm hb)
  | some value => exact TakenFrom.sameIn ha hb

/-! ## Configurations -/

theorem ofJson_of_known {entries : List (Text × Json)}
    (h : ∀ name ∈ entries.map Prod.fst, ¬ IsUnknown name) :
    ofJson (.obj entries) = entries.foldlM setEntry {} := by
  have hnone : unknownNames (entries.map Prod.fst) = [] :=
    unknownNames_of_known fun name hm => by simpa [IsUnknown] using h name hm
  rw [ofJson, ofEntries, hnone]

theorem ofJson_of_unknown {entries : List (Text × Json)}
    (h : ∃ name ∈ entries.map Prod.fst, IsUnknown name) :
    ofJson (.obj entries) = .error (.unknownOptions (unknownNames (entries.map Prod.fst))) := by
  obtain ⟨name, hname, hunknown⟩ := h
  have hm := mem_unknownNames.mpr ⟨hname, hunknown⟩
  rw [ofJson, ofEntries]
  cases hnames : unknownNames (entries.map Prod.fst) with
  | nil =>
    rw [hnames] at hm
    cases hm
  | cons first rest => rfl

theorem known_of_ofJson_eq_ok {entries : List (Text × Json)} {loaded : Options}
    (h : ofJson (.obj entries) = .ok loaded) :
    ∀ name ∈ entries.map Prod.fst, ¬ IsUnknown name := by
  intro name hname hunknown
  rw [ofJson_of_unknown ⟨name, hname, hunknown⟩] at h
  cases h

theorem ofJson_eq_ok_iff {entries : List (Text × Json)} :
    (∃ loaded, ofJson (.obj entries) = .ok loaded) ↔
      (∀ name ∈ entries.map Prod.fst, ¬ IsUnknown name) ∧ ∀ entry ∈ entries, ¬ Refused entry := by
  constructor
  · rintro ⟨loaded, h⟩
    have hknown := known_of_ofJson_eq_ok h
    rw [ofJson_of_known hknown] at h
    exact ⟨hknown, not_refused_of_foldlM_setEntry h⟩
  · rintro ⟨hknown, hfits⟩
    rw [ofJson_of_known hknown]
    exact foldlM_setEntry_of_not_refused hfits {}

theorem loadedFrom_of_ofJson {entries : List (Text × Json)} {loaded : Options}
    (h : ofJson (.obj entries) = .ok loaded) (setting : Setting) :
    setting.LoadedFrom loaded {} (setting.valuesIn entries).getLast? := by
  rw [ofJson_of_known (known_of_ofJson_eq_ok h)] at h
  exact loadedFrom_of_foldlM h setting

/-- Every configuration that is an object. With unknown names among its keys, these are reported,
each once and in ascending order, whatever the entries hold. With known names only, it is refused if
and only if some entry is, and the report is that of the first such entry; otherwise options are
loaded, and each setting is at its default, or taken from the last value that is given for it. In
another order the entries are loaded or not as they were; and the same is loaded, apart from the
enums where both of their keys give some. -/
theorem ofJson_obj (entries : List (Text × Json)) :
    ((∃ name ∈ entries.map Prod.fst, IsUnknown name) →
      ∃ names, ofJson (.obj entries) = .error (.unknownOptions names) ∧
        names.Pairwise Text.Before ∧
        ∀ name, name ∈ names ↔ name ∈ entries.map Prod.fst ∧ IsUnknown name) ∧
    ((∀ name ∈ entries.map Prod.fst, ¬ IsUnknown name) →
      ((∃ fault, ofJson (.obj entries) = .error fault) ↔ ∃ entry ∈ entries, Refused entry) ∧
      (∀ fault, ofJson (.obj entries) = .error fault ↔ ∃ before entry after,
        entries = before ++ entry :: after ∧ (∀ e ∈ before, ¬ Refused e) ∧
          RefusedWith entry fault) ∧
      ((∀ entry ∈ entries, ¬ Refused entry) → ∃ loaded, ofJson (.obj entries) = .ok loaded ∧
        ∀ setting : Setting,
          setting.LoadedFrom loaded {} (setting.valuesIn entries).getLast?)) ∧
    ∀ other, entries.Perm other → (entries.map Prod.fst).Nodup →
      ((∃ loaded, ofJson (.obj entries) = .ok loaded) ↔
        ∃ loaded, ofJson (.obj other) = .ok loaded) ∧
      ∀ loaded loaded', ofJson (.obj entries) = .ok loaded → ofJson (.obj other) = .ok loaded' →
        ∀ setting : Setting, (setting = .enums → ¬ GivesEnumsTwice entries) →
          setting.SameIn loaded loaded' := by
  refine ⟨fun hunknown => ?_, fun hknown => ⟨?_, fun fault => ?_, fun hfits => ?_⟩,
    fun other hperm hkeys => ⟨?_, fun loaded loaded' h h' setting honce => ?_⟩⟩
  · exact ⟨_, ofJson_of_unknown hunknown, pairwise_unknownNames _, fun _ => mem_unknownNames⟩
  · constructor
    · rintro ⟨fault, h⟩
      rw [ofJson_of_known hknown] at h
      obtain ⟨before, entry, after, rfl, -, hrefused⟩ := foldlM_setEntry_eq_error_iff.mp h
      exact ⟨entry, by simp, fault, hrefused⟩
    · rintro ⟨entry, hm, hrefused⟩
      cases h : ofJson (.obj entries) with
      | error fault => exact ⟨fault, rfl⟩
      | ok loaded => exact absurd hrefused ((ofJson_eq_ok_iff.mp ⟨loaded, h⟩).2 entry hm)
  · rw [ofJson_of_known hknown]
    exact foldlM_setEntry_eq_error_iff
  · obtain ⟨loaded, h⟩ := ofJson_eq_ok_iff.mpr ⟨hknown, hfits⟩
    exact ⟨loaded, h, loadedFrom_of_ofJson h⟩
  · rw [ofJson_eq_ok_iff, ofJson_eq_ok_iff]
    simp only [hperm.mem_iff, (hperm.map Prod.fst).mem_iff]
  · have hloaded := loadedFrom_of_ofJson h setting
    rw [valuesIn_eq_of_perm hkeys honce hperm] at hloaded
    exact hloaded.sameIn (loadedFrom_of_ofJson h' setting)

/-- Two names that no option has, behind a value of the wrong shape. -/
def misspelled : List (Text × Json) := [
  ("packageName", .int 5), ("apireturnType", .null), ("Language", .str "java")]

/-- Two values of the wrong shape behind a null. -/
def twoMisfits : List (Text × Json) := [
  ("packageName", .null), ("apiReturnType", .int 5), ("customTypesMapping", .arr [])]

/-- The enums under both of their keys. -/
def enumsTwice : List (Text × Json) := [
  ("enumSelfImportSet", .arr [.str "Color"]),
  ("useOptionalForNullableReturnTypes", .str "yes"),
  ("enumImportItSelfInScala", .arr [.str "Size"])]

/-- Names come before shapes. The first misfit is reported; the later enums are loaded, and a text
does not set the flag. The language is the same in another order. -/
theorem ofJson_misfits_and_enums :
    (∃ names, ofJson (.obj misspelled) = .error (.unknownOptions names) ∧
      ("apireturnType" : Text) ∈ names ∧ ("packageName" : Text) ∉ names) ∧
    ofJson (.obj twoMisfits) = .error (.notText "apiReturnType" "int") ∧
    ∃ loaded reversed, ofJson (.obj enumsTwice) = .ok loaded ∧
      ofJson (.obj enumsTwice.reverse) = .ok reversed ∧
      (∀ name, name ∈ loaded.enums ↔ name ∈ [("Size" : Text)]) ∧
      loaded.optionalReturns = false ∧ loaded.language = "scala" ∧
      loaded.language = reversed.language := by
  refine ⟨?_, ?_, ?_⟩
  · have hunknown : IsUnknown "apireturnType" := by
      intro key
      cases key <;> decide
    obtain ⟨names, hnames, -, hmem⟩ :=
      (ofJson_obj misspelled).1 ⟨_, .tail _ (.head _), hunknown⟩
    refine ⟨names, hnames, (hmem _).mpr ⟨.tail _ (.head _), hunknown⟩, fun h => ?_⟩
    exact ((hmem _).mp h).2 .package rfl
  · have hknown : ∀ name ∈ twoMisfits.map Prod.fst, ¬ IsUnknown name := by
      simp only [twoMisfits, List.map_cons, List.map_nil, List.forall_mem_cons]
      exact ⟨fun h => h .package rfl, fun h => h .returnType rfl, fun h => h .customTypes rfl,
        List.forall_mem_nil _⟩
    have hnull : ¬ Refused ("packageName", .null) := fun ⟨_, _, _, hne, _⟩ => hne rfl
    have hnumber : RefusedWith ("apiReturnType", .int 5) (.notText "apiReturnType" "int") := by
      refine ⟨.returnType, rfl, Json.noConfusion, ?_, rfl⟩
      rintro ⟨text, htext⟩
      cases htext
    exact (((ofJson_obj twoMisfits).2.1 hknown).2.1 _).mpr
      ⟨[("packageName", .null)], _, _, rfl, List.forall_mem_singleton.mpr hnull, hnumber⟩
  · have hknown : ∀ name ∈ enumsTwice.map Prod.fst, ¬ IsUnknown name := by
      simp only [enumsTwice, List.map_cons, List.map_nil, List.forall_mem_cons]
      exact ⟨fun h => h .enums rfl, fun h => h .optionalReturns rfl, fun h => h .scalaEnums rfl,
        List.forall_mem_nil _⟩
    have hfits : ∀ entry ∈ enumsTwice, ¬ Refused entry := by
      simp only [enumsTwice, List.forall_mem_cons]
      exact ⟨Key.enums.not_refused_of_fits ⟨["Color"], rfl⟩,
        Key.optionalReturns.not_refused_of_fits trivial,
        Key.scalaEnums.not_refused_of_fits ⟨["Size"], rfl⟩, List.forall_mem_nil _⟩
    obtain ⟨-, hall, horder⟩ := ofJson_obj enumsTwice
    obtain ⟨loaded, hloaded, hfrom⟩ := (hall hknown).2.2 hfits
    obtain ⟨hboth, hsame⟩ := horder _ (List.reverse_perm _).symm (by decide)
    obtain ⟨reversed, hreversed⟩ := hboth.mp ⟨loaded, hloaded⟩
    refine ⟨loaded, reversed, hloaded, hreversed, ?_, ?_, hfrom .language,
      hsame loaded reversed hloaded hreversed .language Setting.noConfusion⟩
    · obtain ⟨names, hvalue, hnames⟩ := hfrom .enums
      have hread := congrArg Json.names? hvalue
      rw [names?_map_str] at hread
      obtain rfl := Option.some.inj hread
      exact fun name => (hnames name).symm
    · have hflag : loaded.optionalReturns = true ↔ Json.str "yes" = .bool true :=
        hfrom .optionalReturns
      simpa using hflag

end Options

end TargetTypes
