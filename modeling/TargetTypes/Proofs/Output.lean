import Mathlib.Data.List.TakeWhile
import TargetTypes.Proofs.Stages
import TargetTypes.Proofs.Writing

/-!
# Written and printed pages

The command prints its page, or writes it where it is told to. Either way it is the same page: all
is read before anything is written, so the output may even take the place of what was read. A page
that is printed can be written too, unless a directory or a file is in the way, a name or the path
cannot be spelled or is too long, too many directories are missing, the page is not plain, or the
report of it cannot be printed.

    operands are read as they stand                          (read_operands, read_operands_output)
    there are as many fields as definitions                  (length_of_ofDefinitions)
    what is written is what is printed                       (written_eq_printed)
-/

namespace TargetTypes

theorem Path.mem_of_mem_sections {c : CodePoint} {part text : Text} (hpart : part ∈ sections text)
    (hc : c ∈ part) : c ∈ text := by
  induction text generalizing part with
  | nil =>
    obtain rfl := List.mem_singleton.mp hpart
    exact hc
  | cons d rest ih =>
    rw [sections] at hpart
    split at hpart
    · rcases List.mem_cons.mp hpart with rfl | hpart
      · exact (List.not_mem_nil hc).elim
      · exact List.mem_cons_of_mem _ (ih hpart hc)
    · split at hpart
      next first more hsections =>
        rcases List.mem_cons.mp hpart with rfl | hpart
        · rcases List.mem_cons.mp hc with rfl | hc
          · exact List.mem_cons_self
          · exact List.mem_cons_of_mem _ (ih (hsections ▸ List.mem_cons_self) hc)
        · exact List.mem_cons_of_mem _ (ih (hsections ▸ List.mem_cons_of_mem _ hpart) hc)
      next hsections => exact absurd hsections (sections_ne_nil rest)

theorem Text.mem_of_mem_joined {c : CodePoint} {separator : Text} {parts : List Text}
    (h : c ∈ joined separator parts) : c ∈ separator ∨ ∃ part ∈ parts, c ∈ part := by
  induction parts with
  | nil => cases h
  | cons part rest ih =>
    cases rest with
    | nil => exact Or.inr ⟨part, List.mem_cons_self, h⟩
    | cons next more =>
      rcases List.mem_append.mp h with hfirst | hrest
      · rcases List.mem_append.mp hfirst with hpart | hseparator
        · exact Or.inr ⟨part, List.mem_cons_self, hpart⟩
        · exact Or.inl hseparator
      · exact (ih hrest).imp_right fun ⟨other, hmem, hc⟩ =>
          ⟨other, List.mem_cons_of_mem _ hmem, hc⟩

/-- A path is shown by its own characters, slashes and a dot. -/
theorem Path.no_nul_text {text : Text} (hrelative : rootOf text = []) (h : .scalar '\x00' ∉ text) :
    .scalar '\x00' ∉ (ofText text).text := by
  intro hmem
  unfold Path.text at hmem
  split at hmem
  · exact absurd hmem (by decide)
  · rw [ofText, hrelative, List.nil_append] at hmem
    rcases Text.mem_of_mem_joined hmem with hslash | ⟨part, hpart, hc⟩
    · exact absurd hslash (by decide)
    · exact h (mem_of_mem_sections (List.mem_filter.mp hpart).1 hc)

namespace Arguments

variable {config definitions output : Text}

theorem wordOf_operand {text : Text} (h : text.head? ≠ some (.scalar '-')) :
    wordOf text = .ok (.operand text) := by
  unfold wordOf
  split <;> first | exact absurd rfl h | rfl

theorem ne_separator {text : Text} (h : text.head? ≠ some (.scalar '-')) : text ≠ separator := by
  rintro rfl
  exact h rfl

theorem read_of_no_separator {texts : List Text} {words : List Word}
    (hnone : ∀ text ∈ texts, text ≠ separator) (hwords : texts.mapM wordOf = .ok words) :
    read texts = (takeWords {} words).bind ofTaken := by
  have hall : ∀ text ∈ texts, decide (text ≠ separator) = true :=
    fun text hmem => decide_eq_true (hnone text hmem)
  rw [read, List.takeWhile_eq_self_iff.mpr hall, List.dropWhile_eq_nil_iff.mpr hall, hwords]
  rfl

theorem read_operands (hconfig : config.head? ≠ some (.scalar '-'))
    (hdefinitions : definitions.head? ≠ some (.scalar '-')) :
    read [config, definitions] = .ok ⟨some config, some definitions, none⟩ := by
  have hnone : ∀ text ∈ [config, definitions], text ≠ separator := by
    simp [ne_separator hconfig, ne_separator hdefinitions]
  have hwords : [config, definitions].mapM wordOf =
      .ok [.operand config, .operand definitions] := by
    simp only [List.mapM_cons, List.mapM_nil, wordOf_operand hconfig, wordOf_operand hdefinitions]
    rfl
  rw [read_of_no_separator hnone hwords]
  rfl

theorem read_operands_output (hconfig : config.head? ≠ some (.scalar '-'))
    (hdefinitions : definitions.head? ≠ some (.scalar '-')) (houtput : output.head? ≠ some (.scalar '-')) :
    read [config, definitions, "-o", output] =
      .ok ⟨some config, some definitions, some output⟩ := by
  have hoption : ("-o" : Text) ≠ separator := by decide
  have hnone : ∀ text ∈ [config, definitions, "-o", output], text ≠ separator := by
    simp [ne_separator hconfig, ne_separator hdefinitions, ne_separator houtput, hoption]
  have hwords : [config, definitions, "-o", output].mapM wordOf =
      .ok [.operand config, .operand definitions, .output none, .operand output] := by
    have hword : wordOf "-o" = .ok (.output none) := rfl
    simp only [List.mapM_cons, List.mapM_nil, wordOf_operand hconfig, wordOf_operand hdefinitions,
      hword, wordOf_operand houtput]
    rfl
  rw [read_of_no_separator hnone hwords]
  rfl

end Arguments

namespace Command

variable {config definitions output : Text}

/-! ## Both runs -/

/-- Every definition becomes one field. -/
theorem length_of_ofDefinitions {lang : Language} {opts : Options} {items : List Json}
    {resolved : List Field} (h : Field.ofDefinitions lang opts items = .ok resolved) :
    resolved.length = items.length := by
  unfold Field.ofDefinitions at h
  induction items generalizing resolved with
  | nil =>
    cases h
    rfl
  | cons item rest ih =>
    rw [List.mapM_cons] at h
    obtain ⟨field, -, h⟩ := exists_of_bind_eq_ok h
    obtain ⟨others, hothers, h⟩ := exists_of_bind_eq_ok h
    cases h
    rw [List.length_cons, List.length_cons, ih hothers]

section

variable {host : Host} {store left : Store}

/-- Without an output the page is printed. -/
theorem run_printing_eq_ok_iff (hconfig : config.head? ≠ some (.scalar '-'))
    (hdefinitions : definitions.head? ≠ some (.scalar '-')) (output : Option Text) {page : Text} :
    run host store [config, definitions] = (.ok page, left) ↔
      ∃ lang resolved, fields store ⟨some config, some definitions, output⟩ = .ok (lang, resolved) ∧
        page = Preview.ofFields lang resolved ∧ host.takes page = true ∧ left = store := by
  have hsame : fields store ⟨some config, some definitions, none⟩ =
      fields store ⟨some config, some definitions, output⟩ := rfl
  rw [run_eq host store (Arguments.read_operands hconfig hdefinitions), hsame]
  cases fields store ⟨some config, some definitions, output⟩ with
  | error fault => simp
  | ok result =>
    obtain ⟨lang, resolved⟩ := result
    simp only [deliver, shown, Prod.mk.injEq, Host.print_eq_ok_iff, Except.ok.injEq]
    constructor
    · rintro ⟨⟨rfl, htakes⟩, rfl⟩
      exact ⟨lang, resolved, ⟨rfl, rfl⟩, rfl, htakes, rfl⟩
    · rintro ⟨_, _, ⟨rfl, rfl⟩, rfl, htakes, rfl⟩
      exact ⟨⟨rfl, htakes⟩, rfl⟩

theorem deliver_some_eq_ok_iff {lang : Language} {resolved : List Field} {text printed : Text} :
    deliver host store lang resolved (some text) = (.ok printed, left) ↔
      store.write host.climbs (Path.ofText text) (Preview.ofFields lang resolved) =
          (.ok (), left) ∧
        printed = summary (Path.ofText text) resolved.length ∧ host.takes printed = true := by
  rw [deliver, shown_some]
  cases store.write host.climbs (Path.ofText text) (Preview.ofFields lang resolved) with
  | mk ending written =>
    cases ending with
    | error fault => simp
    | ok =>
      simp only [Prod.mk.injEq, Host.print_eq_ok_iff, true_and]
      exact and_comm

/-- With an output the same page is written. -/
theorem run_writing_eq_ok_iff (hconfig : config.head? ≠ some (.scalar '-'))
    (hdefinitions : definitions.head? ≠ some (.scalar '-'))
    (houtput : output.head? ≠ some (.scalar '-')) {printed : Text} :
    run host store [config, definitions, "-o", output] = (.ok printed, left) ↔
      ∃ lang resolved,
        fields store ⟨some config, some definitions, some output⟩ = .ok (lang, resolved) ∧
        store.write host.climbs (Path.ofText output) (Preview.ofFields lang resolved) =
          (.ok (), left) ∧
        printed = summary (Path.ofText output) resolved.length ∧ host.takes printed = true := by
  rw [run_eq host store (Arguments.read_operands_output hconfig hdefinitions houtput)]
  cases fields store ⟨some config, some definitions, some output⟩ with
  | error fault => simp
  | ok result =>
    obtain ⟨lang, resolved⟩ := result
    simp only [deliver_some_eq_ok_iff, Except.ok.injEq]
    constructor
    · intro h
      exact ⟨lang, resolved, rfl, h⟩
    · rintro ⟨_, _, heq, h⟩
      cases heq
      exact h

end

/-- What is written below the working directory is what is printed. What can be printed is written,
if nothing is in the way, exactly when the path can be spelled and neither it nor a name is too
long, not too many directories are missing, the page is plain, and the report can be printed. -/
theorem written_eq_printed (host : Host) (store : Store)
    (hconfig : config.head? ≠ some (.scalar '-'))
    (hdefinitions : definitions.head? ≠ some (.scalar '-'))
    (houtput : output.head? ≠ some (.scalar '-'))
    (hinside : (Path.ofText output).Inside) (hnul : .scalar '\x00' ∉ output) :
    (∀ printed left, run host store [config, definitions, "-o", output] = (.ok printed, left) →
      ∃ plain items, run host store [config, definitions] = (.ok plain.text, store) ∧
        definitionsAt store ⟨some config, some definitions, some output⟩ = .ok items ∧
        printed = summary (Path.ofText output) items.length ∧
        left.read (Path.ofText output) = .ok plain ∧
        ∀ place, place ≠ (Path.ofText output).goal →
          left.contents? place = store.contents? place) ∧
    (∀ page left, run host store [config, definitions] = (.ok page, left) →
      store.isDirectory (Path.ofText output).goal = false →
      (∀ above ∈ (Path.ofText output).goal.ancestors, store.contents? above = none) →
      ∃ items, definitionsAt store ⟨some config, some definitions, some output⟩ = .ok items ∧
        ((∃ printed left,
            run host store [config, definitions, "-o", output] = (.ok printed, left)) ↔
          (Path.ofText output).text.isNameable = true ∧
            (∀ part ∈ (Path.ofText output).parts, part.fileName.length ≤ 255) ∧
            (Path.ofText output).text.fileName.length < 4096 ∧
            store.missing (Path.ofText output).goal ≤ host.climbs + 1 ∧
            page.plain?.isSome = true ∧
            host.takes (summary (Path.ofText output) items.length) = true)) := by
  -- both runs have the same fields, and the page is laid out before the store is touched
  constructor
  · intro printed left h
    obtain ⟨lang, resolved, hfields, hwrite, rfl, -⟩ :=
      (run_writing_eq_ok_iff hconfig hdefinitions houtput).mp h
    obtain ⟨opts, items, -, -, hitems, hresolved⟩ := exists_of_fields_eq_ok hfields
    obtain ⟨plain, hplain, hread⟩ := Store.read_of_write hwrite
    obtain ⟨-, -, -, hkept⟩ := Store.changedTo_of_write hwrite
    refine ⟨plain, items, ?_, hitems, ?_, hread, hkept⟩
    · exact (run_printing_eq_ok_iff hconfig hdefinitions (some output)).mpr
        ⟨lang, resolved, hfields, (Text.plain?_eq_some_iff.mp hplain).symm,
          host.takes_plain plain, rfl⟩
    · rw [length_of_ofDefinitions hresolved]
  · intro page left h hdirectory hfiles
    obtain ⟨lang, resolved, hfields, rfl, -, rfl⟩ :=
      (run_printing_eq_ok_iff hconfig hdefinitions (some output)).mp h
    obtain ⟨opts, items, -, -, hitems, hresolved⟩ := exists_of_fields_eq_ok hfields
    have hcount := length_of_ofDefinitions hresolved
    refine ⟨items, hitems, ?_⟩
    constructor
    · rintro ⟨printed, left', hwritten⟩
      obtain ⟨lang', resolved', hfields', hwrite, rfl, htakes⟩ :=
        (run_writing_eq_ok_iff hconfig hdefinitions houtput).mp hwritten
      cases hfields.symm.trans hfields'
      obtain ⟨plain, hplain, -⟩ := Store.read_of_write hwrite
      have hfits := Store.fits_of_write hwrite
      refine ⟨hfits.nameable, hfits.size_part, hfits.size_text,
        Store.missing_le_of_write hwrite hinside hfiles, Option.isSome_of_mem hplain, ?_⟩
      rw [← hcount]
      exact htakes
    · rintro ⟨hname, hparts, hlength, hmissing, hplain, htakes⟩
      have hfits : (Path.ofText output).Fits :=
        ⟨hname, Path.no_nul_text hinside.relative hnul, hlength, hparts⟩
      obtain ⟨written, hwrite⟩ :=
        Store.exists_write hinside hfits hdirectory hfiles hmissing hplain
      rw [← hcount] at htakes
      exact ⟨_, written, (run_writing_eq_ok_iff hconfig hdefinitions houtput).mpr
        ⟨lang, resolved, hfields, hwrite, rfl, htakes⟩⟩

/-- One field in a list. -/
def ages : Store where
  files := [
    (["config.json"], .text "\x7b\x7d"),
    (["fields.json"], .text "[\x7b\"name\": \"ages\", \"type\": \"Int\", \"list\": true\x7d]")]

def agesPage : Plain := "// Resolved scala types (1 fields)\n\nages: Seq[Int]\n"

theorem run_ages :
    (run .strict ages ["config.json", "fields.json"]).1 = .ok agesPage.text := by
  decide +kernel

/-- The output takes the place of the definitions. -/
theorem written_over_definitions :
    run .strict ages ["config.json", "fields.json"] = (.ok agesPage.text, ages) ∧
      (Path.ofText ".//fields.json").Inside ∧ ∃ left,
        run .strict ages ["config.json", "fields.json", "-o", ".//fields.json"] =
          (.ok "Generated fields.json (1 fields)\n", left) ∧
        left.read (Path.ofText "fields.json") = .ok agesPage ∧
        left.contents? ["config.json"] = ages.contents? ["config.json"] := by
  have hsummary : (run .strict ages ["config.json", "fields.json", "-o", ".//fields.json"]).1 =
      .ok "Generated fields.json (1 fields)\n" := by
    decide +kernel
  have hinside : (Path.ofText ".//fields.json").Inside := by decide
  have hconfig : ("config.json" : Text).head? ≠ some (.scalar '-') := by decide
  have hdefinitions : ("fields.json" : Text).head? ≠ some (.scalar '-') := by decide
  obtain ⟨hsame, hwritten⟩ :=
    written_eq_printed .strict ages hconfig hdefinitions (by decide) hinside (by decide)
  obtain ⟨items, hitems, hsuccess⟩ :=
    hwritten agesPage.text _ (Prod.ext run_ages rfl) (by decide) (by decide)
  have hone : items.length = 1 := by
    have hcount : (definitionsAt ages ⟨some "config.json", some "fields.json",
        some ".//fields.json"⟩).map List.length = .ok 1 := by
      decide +kernel
    rw [hitems] at hcount
    exact Except.ok.inj hcount
  rw [hone] at hsuccess
  obtain ⟨printed, left, hleft⟩ := hsuccess.mpr (by decide +kernel)
  obtain ⟨plain, items, hpage, -, -, hread, hothers⟩ := hsame printed left hleft
  have hprinted := run_ages
  rw [hpage] at hprinted
  cases Plain.text_inj.mp (Except.ok.inj hprinted)
  rw [hleft] at hsummary
  cases hsummary
  exact ⟨hpage, hinside, left, hleft, hread, hothers _ (by decide)⟩

/-- One byte more than a name may have. -/
def longName : Text := List.replicate 256 'x'

/-- Names that may be, and more of them than a path may have. -/
def longPath : Text := Text.joined "/" (List.replicate 17 (List.replicate 250 'y'))

/-- A file in more missing directories than are made at once. -/
def deepPath : Text := Text.joined "/" (List.replicate 1000 "d")

/-- A path below the working directory, with nothing in its way. -/
def Unobstructed (store : Store) (output : Text) : Prop :=
  (output.head? ≠ some (.scalar '-') ∧ .scalar '\x00' ∉ output ∧ (Path.ofText output).Inside) ∧
    store.isDirectory (Path.ofText output).goal = false ∧
    ∀ above ∈ (Path.ofText output).goal.ancestors, store.contents? above = none

instance (store : Store) (output : Text) : Decidable (Unobstructed store output) :=
  inferInstanceAs (Decidable (_ ∧ _ ∧ ∀ above ∈ (Path.ofText output).goal.ancestors, _))

/-- The page is printed, and it is not written. -/
def PrintedOnly (host : Host) (store : Store) (output : Text) : Prop :=
  (∃ page left, run host store ["config.json", "fields.json"] = (.ok page, left)) ∧
    ¬∃ printed left, run host store (wordsWith output) = (.ok printed, left)

section

variable {host : Host} {store : Store} {output page : Text}

theorem printedOnly_of_error {fault : Fault}
    (hpage : (run host store ["config.json", "fields.json"]).1 = .ok page)
    (hfault : (run host store (wordsWith output)).1 = .error fault) :
    PrintedOnly host store output := by
  refine ⟨⟨page, _, Prod.ext hpage rfl⟩, ?_⟩
  rintro ⟨printed, left, h⟩
  rw [h] at hfault
  cases hfault

theorem printedOnly_of_path
    (hpage : (run host store ["config.json", "fields.json"]).1 = .ok page)
    (hfree : Unobstructed store output)
    (hpath : ¬ ((Path.ofText output).text.isNameable = true ∧
      (∀ part ∈ (Path.ofText output).parts, part.fileName.length ≤ 255) ∧
      (Path.ofText output).text.fileName.length < 4096 ∧
      store.missing (Path.ofText output).goal ≤ host.climbs + 1)) :
    PrintedOnly host store output := by
  have hconfig : ("config.json" : Text).head? ≠ some (.scalar '-') := by decide
  have hdefinitions : ("fields.json" : Text).head? ≠ some (.scalar '-') := by decide
  obtain ⟨⟨houtput, -, hinside⟩, -, hfiles⟩ := hfree
  refine ⟨⟨page, _, Prod.ext hpage rfl⟩, ?_⟩
  rintro ⟨printed, left, h⟩
  obtain ⟨lang, resolved, -, hwrite, -, -⟩ :=
    (run_writing_eq_ok_iff hconfig hdefinitions houtput).mp h
  have hfits := Store.fits_of_write hwrite
  exact hpath ⟨hfits.nameable, hfits.size_part, hfits.size_text,
    Store.missing_le_of_write hwrite hinside hfiles⟩

end

/-- Pages that are printed and not written, with nothing in the way: for the path, for the page, and
for the report. -/
theorem printed_but_not_written :
    (∀ output ∈ [longName, longPath, deepPath, [.ofNat 0xD800]],
      Unobstructed ages output ∧ PrintedOnly .strict ages output) ∧
    (Unobstructed loneSurrogate "new.txt" ∧ PrintedOnly .lenient loneSurrogate "new.txt") ∧
    (Unobstructed plainType oddName ∧ PrintedOnly .strict plainType oddName) := by
  refine ⟨fun output hmem => ?_, ⟨by decide +kernel, ?_⟩, by decide +kernel, ?_⟩
  · have hpaths : ∀ output ∈ [longName, longPath, deepPath, [.ofNat 0xD800]],
        Unobstructed ages output ∧ ¬ ((Path.ofText output).text.isNameable = true ∧
          (∀ part ∈ (Path.ofText output).parts, part.fileName.length ≤ 255) ∧
          (Path.ofText output).text.fileName.length < 4096 ∧
          ages.missing (Path.ofText output).goal ≤ Host.strict.climbs + 1) := by
      decide +kernel
    obtain ⟨hfree, hpath⟩ := hpaths output hmem
    exact ⟨hfree, printedOnly_of_path run_ages hfree hpath⟩
  · have hpage : (run .lenient loneSurrogate ["config.json", "fields.json"]).1 =
        .ok ("// Resolved scala types (1 fields)\n\na: " ++ oddByte ++ "\n") := by
      decide +kernel
    have hfault : (run .lenient loneSurrogate (wordsWith "new.txt")).1 = .error .unencodable := by
      decide +kernel
    exact printedOnly_of_error hpage hfault
  · have hpage : (run .strict plainType ["config.json", "fields.json"]).1 =
        .ok "// Resolved scala types (1 fields)\n\na: User\n" := by
      decide +kernel
    have hfault : (run .strict plainType (wordsWith oddName)).1 = .error .unencodable := by
      decide +kernel
    exact printedOnly_of_error hpage hfault

end Command

end TargetTypes
