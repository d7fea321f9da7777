import TargetTypes.Preview

/-!
# Reading a page back

A page takes its texts as they are, with no marks around them. Still it says what it was laid out
from, as long as each text stays in its line and names and operations are words: a word ends at the
first space or colon, which tells the two forms of a field's line apart, and it is never taken for a
note. So a block ends in its first line that is no note, whatever follows it.

    a line ends where it did                                    (eq_of_append_newline)
    a block and what follows it are known from their text          (text_append_injective)
    so are the blocks of a page                                    (flatMap_text_injective)
    so is the context it was laid out for                          (eq_of_page_eq)
-/

namespace TargetTypes

/-- Not empty, in one piece, and not taken for a note. -/
def Text.IsWord (text : Text) : Prop :=
  text ≠ [] ∧ text.head? ≠ some (.scalar '@') ∧ ∀ c ∈ text, c ≠ ' ' ∧ c ≠ ':' ∧ c ≠ '\n'

-- the characters of the text are gone through, not all characters there are
instance (text : Text) : Decidable text.IsWord :=
  have : Decidable (∀ c ∈ text, c ≠ ' ' ∧ c ≠ ':' ∧ c ≠ '\n') := List.decidableBAll _ text
  inferInstanceAs
    (Decidable (text ≠ [] ∧ text.head? ≠ some (.scalar '@') ∧
      ∀ c ∈ text, c ≠ ' ' ∧ c ≠ ':' ∧ c ≠ '\n'))

theorem Text.eq_of_append_newline {a b r s : Text} (ha : .scalar '\n' ∉ a) (hb : .scalar '\n' ∉ b)
    (h : a ++ .scalar '\n' :: r = b ++ .scalar '\n' :: s) : a = b ∧ r = s := by
  obtain ⟨hab, -, hrs⟩ := eq_of_append_stop (p := (· = .scalar '\n'))
    (fun x hx => ne_of_mem_of_not_mem hx ha) (fun x hx => ne_of_mem_of_not_mem hx hb) rfl rfl h
  exact ⟨hab, hrs⟩

theorem Text.newline_not_mem_ofNat (n : Nat) : .scalar '\n' ∉ Text.ofNat n := by
  intro hmem
  obtain ⟨c, hc, he⟩ := List.mem_map.mp hmem
  obtain rfl := CodePoint.scalar.inj he
  have hdigit := Nat.isDigit_of_mem_toDigits (by decide) (by decide) hc
  cases hdigit

namespace Block

/-- Each text stays in its line, and name and operation are words. -/
structure Legible (block : Block) : Prop where
  name : block.name.IsWord
  operation : block.operation = [] ∨ block.operation.IsWord
  type : .scalar '\n' ∉ block.type
  annotations : ∀ note ∈ block.annotations, .scalar '\n' ∉ note

variable {a b : Block} {r s : Text}

/-! ## One line -/

/-- The first space or colon of a field's line ends its operation, or its name if it has none. -/
theorem eq_of_head_append (ha : a.Legible) (hb : b.Legible)
    (h : a.head ++ a.name ++ .scalar ':' :: r = b.head ++ b.name ++ .scalar ':' :: s) :
    a.operation = b.operation ∧ a.name = b.name ∧ r = s := by
  have word {x : Text} (hx : x.IsWord) : ∀ c ∈ x, ¬ (c = ' ' ∨ c = ':') :=
    fun c hc hstop => hstop.elim (hx.2.2 c hc).1 (hx.2.2 c hc).2.1
  unfold head at h
  rcases ha.operation with hao | hao <;> rcases hb.operation with hbo | hbo
  · rw [if_pos hao, if_pos hbo, List.nil_append, List.nil_append] at h
    obtain ⟨hname, -, hrest⟩ := Text.eq_of_append_stop (word ha.name) (word hb.name)
      (Or.inr rfl) (Or.inr rfl) h
    exact ⟨hao.trans hbo.symm, hname, hrest⟩
  · rw [if_pos hao, if_neg hbo.1, List.nil_append, List.append_assoc, List.append_assoc] at h
    obtain ⟨-, hstop, -⟩ := Text.eq_of_append_stop (word ha.name) (word hbo)
      (Or.inr rfl) (Or.inl rfl) h
    cases hstop
  · rw [if_neg hao.1, if_pos hbo, List.nil_append, List.append_assoc, List.append_assoc] at h
    obtain ⟨-, hstop, -⟩ := Text.eq_of_append_stop (word hao) (word hb.name)
      (Or.inl rfl) (Or.inr rfl) h
    cases hstop
  · rw [if_neg hao.1, if_neg hbo.1] at h
    simp only [List.append_assoc] at h
    obtain ⟨hoperation, -, hrest⟩ := Text.eq_of_append_stop (word hao) (word hbo)
      (Or.inl rfl) (Or.inl rfl) h
    obtain ⟨hname, -, hrest⟩ := Text.eq_of_append_stop (word ha.name) (word hb.name)
      (Or.inr rfl) (Or.inr rfl) hrest
    exact ⟨hoperation, hname, hrest⟩

theorem line_append (block : Block) (rest : Text) :
    block.line ++ rest = block.head ++ block.name ++
      .scalar ':' :: .scalar ' ' :: (block.type ++ .scalar '\n' :: rest) := by
  simp only [line, List.append_assoc]
  rfl

theorem line_append_injective (ha : a.Legible) (hb : b.Legible)
    (h : a.line ++ r = b.line ++ s) :
    (a.operation = b.operation ∧ a.name = b.name ∧ a.type = b.type) ∧ r = s := by
  rw [line_append, line_append] at h
  obtain ⟨hoperation, hname, hrest⟩ := eq_of_head_append ha hb h
  obtain ⟨htype, hrest⟩ := Text.eq_of_append_newline ha.type hb.type (List.cons.inj hrest).2
  exact ⟨⟨hoperation, hname, htype⟩, hrest⟩

/-- A field's line is no note. -/
theorem head?_line_append (ha : a.Legible) (r : Text) :
    (a.line ++ r).head? ≠ some (.scalar '@') := by
  have word {x : Text} (hx : x.IsWord) (rest : Text) : (x ++ rest).head? ≠ some (.scalar '@') := by
    obtain ⟨c, tail, rfl⟩ := List.exists_cons_of_ne_nil hx.1
    exact hx.2.1
  unfold line head
  simp only [List.append_assoc]
  rcases ha.operation with ho | ho
  · rw [if_pos ho, List.nil_append]
    exact word ha.name _
  · rw [if_neg ho.1, List.append_assoc]
    exact word ho _

/-! ## Blocks -/

theorem noteLine_append (note rest : Text) :
    noteLine note ++ rest = .scalar '@' :: (note ++ .scalar '\n' :: rest) := by
  simp only [noteLine, List.append_assoc]
  rfl

/-- The notes end at the first line that is none. -/
theorem flatMap_noteLine_append_injective {notes others : List Text} {r s : Text}
    (hnotes : ∀ note ∈ notes, .scalar '\n' ∉ note) (hothers : ∀ note ∈ others, .scalar '\n' ∉ note)
    (hr : r.head? ≠ some (.scalar '@')) (hs : s.head? ≠ some (.scalar '@'))
    (h : notes.flatMap noteLine ++ r = others.flatMap noteLine ++ s) : notes = others ∧ r = s := by
  induction notes generalizing others with
  | nil =>
    cases others with
    | nil => exact ⟨rfl, h⟩
    | cons other others =>
      obtain rfl : r = _ := h
      exact absurd rfl hr
  | cons note notes ih =>
    cases others with
    | nil =>
      obtain rfl : _ = s := h
      exact absurd rfl hs
    | cons other others =>
      rw [List.flatMap_cons, List.flatMap_cons, List.append_assoc, List.append_assoc,
        noteLine_append, noteLine_append] at h
      obtain ⟨hnote, hrest⟩ := Text.eq_of_append_newline (hnotes note List.mem_cons_self)
        (hothers other List.mem_cons_self) (List.cons.inj h).2
      obtain ⟨hnotes, hrest⟩ := ih (fun n hn => hnotes n (List.mem_cons_of_mem _ hn))
        (fun n hn => hothers n (List.mem_cons_of_mem _ hn)) hrest
      exact ⟨by rw [hnote, hnotes], hrest⟩

theorem text_append_injective (ha : a.Legible) (hb : b.Legible)
    (h : a.text ++ r = b.text ++ s) : a = b ∧ r = s := by
  have htext (block : Block) (rest : Text) : block.text ++ rest =
      .scalar '\n' :: (block.annotations.flatMap noteLine ++ (block.line ++ rest)) := by
    simp only [text, List.append_assoc]
    rfl
  rw [htext, htext, List.cons.injEq] at h
  obtain ⟨hnotes, hline⟩ := flatMap_noteLine_append_injective ha.annotations hb.annotations
    (head?_line_append ha r) (head?_line_append hb s) h.2
  obtain ⟨⟨hoperation, hname, htype⟩, hrest⟩ := line_append_injective ha hb hline
  refine ⟨?_, hrest⟩
  cases a
  cases b
  simp only [mk.injEq]
  exact ⟨hnotes, hoperation, hname, htype⟩

theorem flatMap_text_injective {as bs : List Block} (has : ∀ block ∈ as, block.Legible)
    (hbs : ∀ block ∈ bs, block.Legible) (h : as.flatMap text = bs.flatMap text) : as = bs := by
  induction as generalizing bs with
  | nil =>
    cases bs with
    | nil => rfl
    | cons b bs => cases h
  | cons a as ih =>
    cases bs with
    | nil => cases h
    | cons b bs =>
      obtain ⟨hfirst, hrest⟩ := text_append_injective (has a List.mem_cons_self)
        (hbs b List.mem_cons_self) h
      rw [hfirst, ih (fun x hx => has x (List.mem_cons_of_mem _ hx))
        (fun x hx => hbs x (List.mem_cons_of_mem _ hx)) hrest]

end Block

namespace Field

/-- Name and operation are words, and the other texts stay in their lines. -/
structure Legible (field : Field) : Prop where
  name : ∃ name : Text, field.name = .str name ∧ name.IsWord
  type : ∃ type : Text, field.type = .str type ∧ .scalar '\n' ∉ type
  operation : ∀ operation ∈ field.operation, Text.IsWord operation
  annotations : ∀ note ∈ field.annotations, .scalar '\n' ∉ note

/-- The field as a template is given it. -/
def json (field : Field) : Json :=
  .obj [("name", field.name), ("type", field.type),
    ("operation", (field.operation.map Json.str).getD .null),
    ("annotations", .arr (field.annotations.map Json.str))]

end Field

namespace Preview

/-- What a page is laid out for: the fields, under the name of their language. -/
structure Context where
  language : Text
  fields : List Field

namespace Context

/-- The context as a template is given it. -/
def json (context : Context) : Json :=
  .obj [("language", .str context.language), ("fields", .arr (context.fields.map Field.json)),
    ("field_count", .int context.fields.length)]

structure Legible (context : Context) : Prop where
  language : .scalar '\n' ∉ context.language
  fields : ∀ field ∈ context.fields, field.Legible

end Context

/-! ## The page of a context -/

theorem blockOfJson_json (field : Field) : blockOfJson field.json = .ok (blockOf field) := by
  obtain ⟨name, type, operation, annotations⟩ := field
  have hnotes : (annotations.map Json.str).map Json.display = annotations := by
    rw [List.map_map]
    exact List.map_id annotations
  have hblock : blockOfJson (Field.json ⟨name, type, operation, annotations⟩) = .ok
      { annotations := (annotations.map Json.str).map Json.display
        operation := if ((operation.map Json.str).getD .null).truthy then
          ((operation.map Json.str).getD .null).display else []
        name := name.display
        type := type.display } := rfl
  rw [hblock, hnotes]
  cases operation with
  | none => rfl
  | some operation => cases operation <;> rfl

theorem ofJson_json (context : Context) :
    ofJson context.json = .ok (page context.language (Text.ofNat context.fields.length)
      (context.fields.map blockOf)) := by
  have hblocks : (context.fields.map Field.json).mapM blockOfJson =
      .ok (context.fields.map blockOf) := by
    induction context.fields with
    | nil => rfl
    | cons field rest ih =>
      rw [List.map_cons, List.mapM_cons, blockOfJson_json, ih]
      rfl
  have hpage : ofJson context.json = (context.fields.map Field.json).mapM blockOfJson >>=
      fun blocks => .ok (page context.language (Text.ofNat context.fields.length) blocks) := rfl
  rw [hpage, hblocks]
  rfl

theorem legible_blockOf {field : Field} (h : field.Legible) : (blockOf field).Legible := by
  obtain ⟨⟨name, hname, hword⟩, ⟨type, htype, hline⟩, hoperation, hnotes⟩ := h
  refine ⟨?_, ?_, ?_, hnotes⟩
  · rw [blockOf, hname]
    exact hword
  · cases ho : field.operation with
    | none => exact Or.inl (by rw [blockOf, ho]; rfl)
    | some operation => exact Or.inr (by rw [blockOf, ho]; exact hoperation operation ho)
  · rw [blockOf, htype]
    exact hline

theorem blockOf_injective {a b : Field} (ha : a.Legible) (hb : b.Legible)
    (h : blockOf a = blockOf b) : a = b := by
  obtain ⟨name, type, operation, notes⟩ := a
  obtain ⟨name', type', operation', notes'⟩ := b
  obtain ⟨⟨_, rfl, -⟩, ⟨_, rfl, -⟩, hword, -⟩ := ha
  obtain ⟨⟨_, rfl, -⟩, ⟨_, rfl, -⟩, hword', -⟩ := hb
  simp only [blockOf, Block.mk.injEq] at h
  obtain ⟨rfl, hoperation, rfl, rfl⟩ := h
  -- an operation is a word, so none is taken for one that is missing
  have hsame : operation = operation' := by
    cases operation with
    | none =>
      cases operation' with
      | none => rfl
      | some word => exact absurd hoperation.symm (hword' word rfl).1
    | some word =>
      cases operation' with
      | none => exact absurd hoperation (hword word rfl).1
      | some word' => exact congrArg some hoperation
  rw [hsame]
  rfl

theorem fields_injective {as bs : List Field} (has : ∀ field ∈ as, field.Legible)
    (hbs : ∀ field ∈ bs, field.Legible) (h : as.map blockOf = bs.map blockOf) : as = bs := by
  induction as generalizing bs with
  | nil => exact (List.map_eq_nil_iff.mp h.symm).symm
  | cons a as ih =>
    cases bs with
    | nil => cases h
    | cons b bs =>
      obtain ⟨hfirst, hrest⟩ := List.cons.inj h
      rw [blockOf_injective (has a List.mem_cons_self) (hbs b List.mem_cons_self) hfirst,
        ih (fun x hx => has x (List.mem_cons_of_mem _ hx))
          (fun x hx => hbs x (List.mem_cons_of_mem _ hx)) hrest]

/-! ## Different contexts -/

theorem headline_append (language count rest : Text) :
    headline language count ++ rest =
      "// Resolved " ++ language ++ " types (" ++ count ++ " fields)" ++
        .scalar '\n' :: rest := by
  simp only [headline, List.append_assoc]
  rfl

/-- The headline is a line, so the blocks are known first, and with their number the language. -/
theorem page_injective {language other count count' : Text} {as bs : List Block}
    (hlanguage : .scalar '\n' ∉ language) (hother : .scalar '\n' ∉ other)
    (hcount : .scalar '\n' ∉ count) (hcount' : .scalar '\n' ∉ count') (has : ∀ block ∈ as, block.Legible)
    (hbs : ∀ block ∈ bs, block.Legible) (hnumber : as = bs → count = count')
    (h : page language count as = page other count' bs) : language = other ∧ as = bs := by
  have unbroken {x y : Text} (hx : .scalar '\n' ∉ x) (hy : .scalar '\n' ∉ y) :
      .scalar '\n' ∉ ("// Resolved " : Text) ++ x ++ " types (" ++ y ++ " fields)" := by
    simp only [List.mem_append, not_or]
    exact ⟨⟨⟨⟨by decide, hx⟩, by decide⟩, hy⟩, by decide⟩
  rw [page, page, headline_append, headline_append] at h
  obtain ⟨hhead, hblocks⟩ := Text.eq_of_append_newline (unbroken hlanguage hcount)
    (unbroken hother hcount') h
  have hsame := Block.flatMap_text_injective has hbs hblocks
  rw [hnumber hsame, List.append_left_inj, List.append_left_inj, List.append_left_inj,
    List.append_right_inj] at hhead
  exact ⟨hhead, hsame⟩

/-- Contexts that stay in their lines are laid out, and to the same page only if they are the
same. -/
theorem eq_of_page_eq {a b : Context} (ha : a.Legible) (hb : b.Legible) :
    ∃ s t, ofJson a.json = .ok s ∧ ofJson b.json = .ok t ∧ (s = t → a = b) := by
  refine ⟨_, _, ofJson_json a, ofJson_json b, fun h => ?_⟩
  have blocks {context : Context} (hc : context.Legible) :
      ∀ block ∈ context.fields.map blockOf, block.Legible := by
    intro block hmem
    obtain ⟨field, hfield, rfl⟩ := List.mem_map.mp hmem
    exact legible_blockOf (hc.fields field hfield)
  have hnumber : a.fields.map blockOf = b.fields.map blockOf →
      Text.ofNat a.fields.length = Text.ofNat b.fields.length := by
    intro hblocks
    rw [fields_injective ha.fields hb.fields hblocks]
  obtain ⟨hlanguage, hblocks⟩ := page_injective ha.language hb.language
    (Text.newline_not_mem_ofNat _) (Text.newline_not_mem_ofNat _) (blocks ha) (blocks hb)
    hnumber h
  have hfields := fields_injective ha.fields hb.fields hblocks
  cases a
  cases b
  rw [Context.mk.injEq]
  exact ⟨hlanguage, hfields⟩

/-- A return of a query, under notes that look like other lines. -/
def userOfQuery : Context :=
  ⟨"scala", [⟨.str "user", .str "User: T", some "query", ["query user: User: T", ""]⟩]⟩

/-- A field called `query`, whose type takes in what was a name. -/
def queryOfUser : Context :=
  ⟨"scala", [⟨.str "query", .str "user: User: T", none, ["query user: User: T", ""]⟩]⟩

theorem page_userOfQuery_ne :
    (userOfQuery.Legible ∧ queryOfUser.Legible) ∧ ∃ s t,
      ofJson userOfQuery.json = .ok s ∧ ofJson queryOfUser.json = .ok t ∧ s ≠ t := by
  have hquery : Text.IsWord "query" := by decide
  have huser : Text.IsWord "user" := by decide
  have hnotes : ∀ note ∈ [("query user: User: T" : Text), ""], .scalar '\n' ∉ note := by
    decide +kernel
  have ha : userOfQuery.Legible := by
    refine ⟨by decide, fun field hm => ?_⟩
    obtain rfl := List.mem_singleton.mp hm
    refine ⟨⟨"user", rfl, huser⟩, ⟨"User: T", rfl, by decide⟩, fun operation ho => ?_, hnotes⟩
    obtain rfl := Option.some.inj ho
    exact hquery
  have hb : queryOfUser.Legible := by
    refine ⟨by decide, fun field hm => ?_⟩
    obtain rfl := List.mem_singleton.mp hm
    exact ⟨⟨"query", rfl, hquery⟩, ⟨"user: User: T", rfl, by decide⟩,
      fun operation ho => (Option.some_ne_none operation ho.symm).elim, hnotes⟩
  have hne : userOfQuery ≠ queryOfUser := by
    intro h
    have hoperations := congrArg (fun context => context.fields.map Field.operation) h
    cases hoperations
  obtain ⟨s, t, hs, ht, heq⟩ := eq_of_page_eq ha hb
  exact ⟨⟨ha, hb⟩, s, t, hs, ht, fun h => hne (heq h)⟩

end Preview

end TargetTypes
