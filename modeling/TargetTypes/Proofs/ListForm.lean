import TargetTypes.Proofs.ReturnExpr

/-!
# Forms of lists

Which names are lists. A language has its own forms, a marker with a balanced argument in brackets,
and reading finds just these. For Scala the list of Java is one as well; but there the beginning of
the name is all that is looked at, so a longer name that begins alike is taken for a list too. The
rules for returns do not see the same lists: rule 2 spares those of Java, rule 3 swaps the own ones
only.

    reading gives a list for the own forms only                        (isList_parse_iff)
    a collection begins like one, or is an own list                      (isCollection_iff)
    a nullable return becomes optional, but for longer names     (isCollection_scala_exact)
    an own list is swapped, a list of Java goes on to rules 4 and 5    (returnType_listForm)
-/

namespace TargetTypes

namespace Language

/-! ## Forms -/

/-- The name is a marker with the argument in brackets behind it, and the argument is balanced. -/
def Encloses (lang : Language) (markers : List Text) (name argument : Text) : Prop :=
  ∃ marker ∈ markers, lang.lexicon.brackets.balanced argument = true ∧
    name = lang.lexicon.brackets.enclose marker argument

def IsListOf (lang : Language) (name element : Text) : Prop :=
  lang.Encloses lang.lexicon.listMarkers name element

def IsOptionalOf (lang : Language) (name element : Text) : Prop :=
  lang.Encloses lang.lexicon.optionalMarkers name element

/-- The list of Java by its name alone, or with an argument that is opened behind it. -/
def BeginsJavaList (name : Text) : Prop :=
  name = ("java.util.List" : Text) ∨ ("java.util.List<" : Text) <+: name

/-- A list as Scala has it: a form of its own, or the list of Java. -/
def IsScalaList (name : Text) : Prop :=
  (∃ element, Language.scala.IsListOf name element) ∨ BeginsJavaList name

/-- A longer name: it goes on with another character where the list of Java opens its argument. -/
def OutgrowsJavaList (name : Text) : Prop :=
  ∃ (c : CodePoint) (rest : Text), name = ("java.util.List" : Text) ++ c :: rest ∧ c ≠ '<'

/-! ## Reading forms -/

section

variable (lang : Language) {name argument : Text}

theorem parse_of_isListOf (h : lang.IsListOf name argument) :
    ∃ marker, lang.parse name = .list (lang.parse argument) marker := by
  obtain ⟨marker, hm, hb, rfl⟩ := h
  exact ⟨_, lang.legible.parse_list hm hb⟩

theorem parse_of_isOptionalOf (h : lang.IsOptionalOf name argument) :
    ∃ marker, lang.parse name = .optional (lang.parse argument) marker := by
  obtain ⟨marker, hm, hb, rfl⟩ := h
  exact ⟨_, lang.legible.parse_optional hm hb⟩

theorem encloses_of_unwrap? {markers : List Text} (hsub : markers ⊆ lang.lexicon.markers)
    {marker : Text} (h : lang.lexicon.unwrap? markers name = some (marker, argument)) :
    lang.Encloses markers name argument := by
  obtain ⟨hm, ha⟩ := Lexicon.argument?_of_unwrap? h
  exact ⟨marker, hm, Brackets.balanced_of_argument? ha,
    Lexicon.eq_enclose_of_unwrap? lang.legible.restorable hsub h⟩

theorem isList_parse_iff (name : Text) :
    (lang.parse name).isList = true ↔ ∃ element, lang.IsListOf name element := by
  constructor
  · unfold parse
    fun_cases TypeExpr.parse lang.lexicon name with
    | case2 _ marker argument hl =>
      exact fun _ => ⟨argument, lang.encloses_of_unwrap? lang.lexicon.listMarkers_subset hl⟩
    | _ => exact fun h => Bool.noConfusion h
  · rintro ⟨element, h⟩
    obtain ⟨marker, hp⟩ := lang.parse_of_isListOf h
    rw [hp]
    rfl

theorem isOptional_iff (name : Text) :
    lang.isOptional name = true ↔ ∃ element, lang.IsOptionalOf name element := by
  constructor
  · unfold isOptional parse
    fun_cases TypeExpr.parse lang.lexicon name with
    | case3 _ _ marker argument ho =>
      exact fun _ => ⟨argument, lang.encloses_of_unwrap? lang.lexicon.optionalMarkers_subset ho⟩
    | _ => exact fun h => Bool.noConfusion h
  · rintro ⟨element, h⟩
    obtain ⟨marker, hp⟩ := lang.parse_of_isOptionalOf h
    rw [isOptional, hp]
    rfl

theorem isCollection_iff (name : Text) :
    lang.isCollection name = true ↔
      (∃ element, lang.IsListOf name element) ∨ ∃ start ∈ lang.foreignLists, start <+: name := by
  simp only [isCollection, Bool.or_eq_true, isList_parse_iff, List.any_eq_true,
    List.isPrefixOf_iff_prefix]

end

/-! ## The list of Java -/

theorem javaList_opened : ("java.util.List<" : Text) = ("java.util.List" : Text) ++ ("<" : Text) :=
  rfl

theorem prefix_iff_begins_or_outgrows (name : Text) :
    ("java.util.List" : Text) <+: name ↔ BeginsJavaList name ∨ OutgrowsJavaList name := by
  constructor
  · rintro ⟨rest, rfl⟩
    cases rest with
    | nil => exact Or.inl (Or.inl (List.append_nil _))
    | cons c rest =>
      by_cases hc : c = '<'
      · refine Or.inl (Or.inr ⟨rest, ?_⟩)
        rw [javaList_opened, List.append_assoc, hc]
        rfl
      · exact Or.inr ⟨c, rest, rfl, hc⟩
  · rintro ((rfl | hopened) | ⟨c, rest, rfl, -⟩)
    · exact List.prefix_refl _
    · rw [javaList_opened] at hopened
      exact (List.prefix_append _ _).trans hopened
    · exact List.prefix_append _ _

/-- No marker of Scala begins with the character that this name begins with. -/
theorem not_isListOf_scala_of_prefix {name element : Text}
    (h : ("java.util.List" : Text) <+: name) : ¬ Language.scala.IsListOf name element := by
  rintro ⟨marker, hm, -, rfl⟩
  obtain ⟨rest, hrest⟩ := h
  have hhead := congrArg List.head? hrest
  rcases List.mem_cons.mp hm with rfl | hm
  · cases hhead
  · obtain rfl := List.mem_singleton.mp hm
    cases hhead

theorem OutgrowsJavaList.not_begins {name : Text} (h : OutgrowsJavaList name) :
    ¬ BeginsJavaList name := by
  obtain ⟨c, rest, rfl, hc⟩ := h
  rintro (hname | ⟨argument, hopened⟩)
  · exact List.cons_ne_nil c rest (List.append_right_eq_self.mp hname)
  · rw [javaList_opened, List.append_assoc] at hopened
    exact hc (List.cons.inj (List.append_cancel_left hopened)).1.symm

theorem OutgrowsJavaList.not_isScalaList {name : Text} (h : OutgrowsJavaList name) :
    ¬ IsScalaList name := by
  rintro (⟨element, hown⟩ | hjava)
  · have hprefix := (prefix_iff_begins_or_outgrows name).mpr (Or.inr h)
    exact not_isListOf_scala_of_prefix hprefix hown
  · exact h.not_begins hjava

theorem isCollection_of_prefix {name : Text} (h : ("java.util.List" : Text) <+: name) :
    Language.scala.isCollection name = true :=
  (isCollection_iff .scala name).mpr (Or.inr ⟨_, List.mem_singleton_self _, h⟩)

theorem isCollection_scala_iff (name : Text) :
    Language.scala.isCollection name = true ↔ IsScalaList name ∨ OutgrowsJavaList name := by
  have hforeign : (∃ start ∈ Language.scala.foreignLists, start <+: name) ↔
      ("java.util.List" : Text) <+: name := by
    simp [foreignLists]
  rw [isCollection_iff, hforeign, prefix_iff_begins_or_outgrows, IsScalaList, or_assoc]

/-! ## The rules for returns on lists -/

/-- What rules 4 and 5 answer for a name that the rules before have left alone. -/
def laterReturn (lang : Language) (opts : Options) (field : ReturnField) : Text :=
  (lang.wrappedReturn? opts field.name).getD ((lang.primitiveFor? opts field).getD field.name)

/-- Without a template a nullable return is what rule 2 makes of it. -/
theorem returnType_of_nullable (lang : Language) {opts : Options} {field : ReturnField}
    (operation : Text) (hmandatory : field.mandatory = false)
    (hsubscription : Text.inForce? opts.subscriptionType = none)
    (hlist : Text.inForce? opts.returnListType = none)
    (hreturn : Text.inForce? opts.returnType = none) :
    lang.returnType opts field operation = lang.nullableName opts false field.name := by
  have htemplate : lang.templatedType? opts operation field.mandatory field.name = none := by
    simp [templatedType?, subscriptionType?, swappedList?, wrappedReturn?, hsubscription, hlist,
      hreturn]
  have hprimitive : lang.primitiveFor? opts field = none := by
    unfold primitiveFor?
    cases field.schemaType <;> simp [hmandatory]
  rw [returnType_of_not_templated htemplate, hprimitive, hmandatory]
  rfl

theorem optionalOf_scala (name : Text) :
    Language.scala.optionalOf name = ("Option[" : Text) ++ name ++ ("]" : Text) :=
  Language.scala.optionalOf_eq_enclose name

section

variable {opts : Options} {field : ReturnField} {operation element : Text}
  (hsubscription : subscriptionType? opts operation = none)

include hsubscription

theorem returnType_of_isListOf_scala {outer : Text}
    (houter : Text.inForce? opts.returnListType = some outer)
    (h : Language.scala.IsListOf field.name element) :
    Language.scala.returnType opts field operation = Language.scala.generic outer element := by
  have hcollection : Language.scala.isCollection field.name = true :=
    (isCollection_iff .scala field.name).mpr (Or.inl ⟨element, h⟩)
  obtain ⟨marker, hread⟩ := Language.scala.parse_of_isListOf h
  apply returnType_of_templatedType?
  simp only [templatedType?, hsubscription, nullableName_of_isCollection opts _ hcollection,
    swappedList?, houter, hread, render_parse_scala]

/-- A list of Java is a collection, and so spared by rule 2; but it reads as no list. -/
theorem returnType_of_isListOf_java (h : Language.java.IsListOf field.name element) :
    Language.scala.returnType opts field operation = Language.scala.laterReturn opts field := by
  obtain ⟨marker, hm, -, hname⟩ := h
  obtain rfl := List.mem_singleton.mp hm
  have hprefix : ("java.util.List" : Text) <+: field.name := by
    rw [hname]
    exact ⟨_, by rw [Brackets.enclose, List.append_assoc, List.append_assoc]; rfl⟩
  have hcollection := isCollection_of_prefix hprefix
  -- rule 3 asks how the name reads, and not whether it is a collection
  have hnot : (Language.scala.parse field.name).isList = false := by
    rw [Bool.eq_false_iff, Ne, isList_parse_iff]
    rintro ⟨inner, hown⟩
    exact not_isListOf_scala_of_prefix hprefix hown
  have htemplate : Language.scala.templatedType? opts operation field.mandatory field.name =
      Language.scala.wrappedReturn? opts field.name := by
    simp only [templatedType?, hsubscription, nullableName_of_isCollection opts _ hcollection,
      swappedList?_of_not_list opts hnot]
  unfold returnType laterReturn
  rw [htemplate, nullableName_of_isCollection opts _ hcollection]
  cases Language.scala.wrappedReturn? opts field.name with
  | none => rfl
  | some type => rfl

end

/-! ## Which names are lists -/

/-- The collection test finds the forms of lists and the names that outgrow the list of Java. It is
right for every other name; and where options ask for it and no template applies, just these other
names become optional if they are neither list nor optional. -/
theorem isCollection_scala_exact (name : Text) :
    (Language.scala.isCollection name = true ↔ IsScalaList name ∨ OutgrowsJavaList name) ∧
      ((Language.scala.isCollection name = true ↔ IsScalaList name) ↔ ¬ OutgrowsJavaList name) ∧
      ∀ (opts : Options) (field : ReturnField) (operation : Text), field.name = name →
        field.mandatory = false → opts.optionalReturns = true →
        Text.inForce? opts.subscriptionType = none → Text.inForce? opts.returnListType = none →
        Text.inForce? opts.returnType = none → ¬ IsScalaList name →
        (¬ ∃ element, Language.scala.IsOptionalOf name element) →
        (Language.scala.returnType opts field operation = ("Option[" : Text) ++ name ++ ("]" : Text) ↔
          ¬ OutgrowsJavaList name) := by
  have hiff := isCollection_scala_iff name
  refine ⟨hiff, ?_, ?_⟩
  · constructor
    · intro h houtgrows
      exact houtgrows.not_isScalaList (h.mp (hiff.mpr (Or.inr houtgrows)))
    · intro h
      rw [hiff, or_iff_left h]
  · rintro opts field operation rfl hmandatory hasked hsubscription hlist hreturn hnot hnotOptional
    rw [returnType_of_nullable .scala operation hmandatory hsubscription hlist hreturn,
      ← optionalOf_scala]
    have hoptional : Language.scala.isOptional field.name = false := by
      rwa [Bool.eq_false_iff, Ne, isOptional_iff]
    constructor
    · intro hwrapped houtgrows
      have hcollection := hiff.mpr (Or.inr houtgrows)
      rw [nullableName_of_isCollection opts false hcollection, optionalOf_scala] at hwrapped
      have hlength := congrArg List.length hwrapped
      have hopening : ("Option[" : Text).length = 7 := rfl
      rw [List.length_append, List.length_append] at hlength
      omega
    · intro h
      have hcollection : Language.scala.isCollection field.name = false := by
        rw [Bool.eq_false_iff, Ne, hiff]
        exact not_or.mpr ⟨hnot, h⟩
      simp [nullableName, hasked, hcollection, hoptional]

/-- A class whose name begins like the own list is no list. -/
theorem returnType_sequence :
    (¬ IsScalaList "Sequence[User]") ∧ (¬ OutgrowsJavaList "Sequence[User]") ∧
      Language.scala.returnType { optionalReturns := true } { name := "Sequence[User]" } "QUERY" =
        ("Option[Sequence[User]]" : Text) := by
  obtain ⟨hiff, -, hreturn⟩ := isCollection_scala_exact "Sequence[User]"
  have hcollection : ¬ Language.scala.isCollection "Sequence[User]" = true := by decide +kernel
  obtain ⟨hlist, houtgrows⟩ := not_or.mp (mt hiff.mpr hcollection)
  have hoptional : ¬ ∃ element, Language.scala.IsOptionalOf "Sequence[User]" element := by
    rw [← isOptional_iff]
    decide +kernel
  exact ⟨hlist, houtgrows, (hreturn { optionalReturns := true } { name := "Sequence[User]" } "QUERY"
    rfl rfl rfl rfl rfl rfl hlist hoptional).mpr houtgrows⟩

/-- The iterator of a list, which is no list. -/
def listIterator : Text := "java.util.ListIterator<User>"

/-- It is taken for a list, and not wrapped. -/
theorem listIterator_taken_for_list :
    (¬ ∀ name, Language.scala.isCollection name = true ↔ IsScalaList name) ∧
      ¬ ∀ (opts : Options) (field : ReturnField) (operation : Text), field.mandatory = false →
        opts.optionalReturns = true → Text.inForce? opts.subscriptionType = none →
        Text.inForce? opts.returnListType = none → Text.inForce? opts.returnType = none →
        ¬ IsScalaList field.name →
        (¬ ∃ element, Language.scala.IsOptionalOf field.name element) →
        Language.scala.returnType opts field operation =
          ("Option[" : Text) ++ field.name ++ ("]" : Text) := by
  have hlist : ¬ IsScalaList listIterator :=
    OutgrowsJavaList.not_isScalaList ⟨'I', "terator<User>", rfl, by decide⟩
  have hoptional : ¬ ∃ element, Language.scala.IsOptionalOf listIterator element := by
    rw [← isOptional_iff]
    decide +kernel
  constructor
  · intro h
    exact hlist ((h listIterator).mp (by decide +kernel))
  · intro h
    have hwrapped := h { optionalReturns := true } { name := listIterator } "QUERY" rfl rfl rfl rfl rfl
      hlist hoptional
    exact absurd hwrapped (by decide +kernel)

/-! ## Which lists are swapped -/

/-- With a list type for returns, and no subscription, an own list gives its element to it, whatever
the other options are. A list of Java is passed on to rules 4 and 5 as it is, so its answer is that of
the list type only where these rules happen to give the same text. -/
theorem returnType_listForm {opts : Options} {field : ReturnField} {operation outer element : Text}
    (hsubscription : subscriptionType? opts operation = none)
    (houter : Text.inForce? opts.returnListType = some outer)
    (hform : Language.scala.IsListOf field.name element ∨
      Language.java.IsListOf field.name element) :
    (Language.scala.IsListOf field.name element →
        Language.scala.returnType opts field operation = Language.scala.generic outer element) ∧
      (Language.java.IsListOf field.name element →
        Language.scala.returnType opts field operation = Language.scala.laterReturn opts field) ∧
      (Language.scala.returnType opts field operation = Language.scala.generic outer element ↔
        Language.scala.IsListOf field.name element ∨
          Language.scala.laterReturn opts field = Language.scala.generic outer element) := by
  have hown (h : Language.scala.IsListOf field.name element) :=
    returnType_of_isListOf_scala hsubscription houter h
  have hjava (h : Language.java.IsListOf field.name element) :=
    returnType_of_isListOf_java hsubscription h
  refine ⟨hown, hjava, ?_, ?_⟩
  · intro hswapped
    rcases hform with h | h
    · exact Or.inl h
    · exact Or.inr ((hjava h).symm.trans hswapped)
  · rintro (h | hlater)
    · exact hown h
    · rcases hform with h | h
      · exact hown h
      · exact (hjava h).trans hlater

/-- Templates, optionals and primitives that could all have a say. -/
def streams : Options where
  optionalReturns := true
  returnListType := some "fs2.Stream[F, %s]"
  returnType := some "Future"
  customTypes := [("User!", "Int")]

theorem returnType_lists_of_users :
    Language.scala.returnType streams { name := "scala.Seq[Option[User]]" } "QUERY" =
        ("fs2.Stream[F, Option[User]]" : Text) ∧
      Language.scala.returnType streams ⟨"java.util.List<User>", true, some "User", true⟩ "QUERY" =
        ("Future[java.util.List<User>]" : Text) := by
  have hown : Language.scala.IsListOf "scala.Seq[Option[User]]" "Option[User]" :=
    ⟨"scala.Seq", .tail _ (.head _), by decide, rfl⟩
  have hjava : Language.java.IsListOf "java.util.List<User>" "User" :=
    ⟨"java.util.List", .head _, by decide, rfl⟩
  have hswapped := (@returnType_listForm streams { name := "scala.Seq[Option[User]]" } "QUERY"
    "fs2.Stream[F, %s]" "Option[User]" (by decide +kernel) rfl (Or.inl hown)).1 hown
  have hlater := (@returnType_listForm streams ⟨"java.util.List<User>", true, some "User", true⟩
    "QUERY" "fs2.Stream[F, %s]" "User" (by decide +kernel) rfl (Or.inr hjava)).2.1 hjava
  exact ⟨hswapped.trans (by decide +kernel), hlater.trans (by decide +kernel)⟩

/-- A list of Java does not go over into the list type for returns. -/
theorem java_list_not_swapped :
    ¬ ∀ (opts : Options) (field : ReturnField) (operation outer element : Text),
        subscriptionType? opts operation = none →
        Text.inForce? opts.returnListType = some outer →
        Language.scala.IsListOf field.name element ∨ Language.java.IsListOf field.name element →
        Language.scala.returnType opts field operation = Language.scala.generic outer element := by
  intro h
  have hjava : Language.java.IsListOf "java.util.List<User>" "User" :=
    ⟨"java.util.List", .head _, by decide, rfl⟩
  have hswapped := h { returnListType := some "fs2.Stream[F, %s]" }
    { name := "java.util.List<User>" } "QUERY" "fs2.Stream[F, %s]" "User" (by decide +kernel) rfl
    (Or.inr hjava)
  exact absurd hswapped (by decide +kernel)

end Language

end TargetTypes
