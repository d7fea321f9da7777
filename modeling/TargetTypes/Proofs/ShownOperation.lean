import TargetTypes.Proofs.LetterCase
import TargetTypes.Proofs.TextField

/-!
# The operation that is shown

A field shows its operation in lower case; the rule for subscriptions looks at it in upper case.
So a field that is shown as a subscription went through that rule, but not the other way round:
with a long s or a dotless i the operation is a subscription in upper case, and no word of plain
letters in lower case. These two letters are all that makes the two differ.

    shown as a subscription ↔ taken for one, without the two letters     (lower_eq_subscription_iff)
    the rule decides the type, or the type is as without its setting       (returnType_subscribes)
    shown and taken agree ↔ what is taken has neither letter                (shown_iff_subscribes)
-/

namespace TargetTypes

theorem Text.lower_eq_subscription_iff (operation : Text) :
    operation.lower = "subscription" ↔
      operation.upper = Operation.subscription.label ∧ .scalar 'ſ' ∉ operation ∧ .scalar 'ı' ∉ operation :=
  lower_eq_iff_upper_eq (List.all_eq_true.mp (by decide)) (by decide) (by decide +kernel)

namespace Language

/-- The rule for subscriptions decides the type. -/
def subscribes (opts : Options) (operation : Text) : Bool :=
  (subscriptionType? opts operation).isSome

theorem subscriptionType?_of_subscribes {opts : Options} {outer operation : Text}
    (houter : Text.inForce? opts.subscriptionType = some outer)
    (h : subscribes opts operation = true) : subscriptionType? opts operation = some outer := by
  obtain ⟨found, hfound⟩ := Option.isSome_iff_exists.mp h
  unfold subscriptionType? at hfound ⊢
  split at hfound
  next hupper => rw [if_pos hupper, houter]
  next => cases hfound

theorem subscribes_iff {opts : Options} {outer : Text}
    (houter : Text.inForce? opts.subscriptionType = some outer) (operation : Text) :
    subscribes opts operation = true ↔ operation.upper = Operation.subscription.label := by
  unfold subscribes subscriptionType?
  rw [houter]
  split
  next hupper => exact iff_of_true rfl hupper
  next hupper => exact iff_of_false Bool.false_ne_true hupper

/-- Where the rule does not apply, its setting has no say. -/
theorem returnType_subscribes (lang : Language) {opts : Options} {outer : Text}
    (houter : Text.inForce? opts.subscriptionType = some outer) (field : ReturnField)
    (operation : Text) :
    lang.returnType opts field operation =
      if subscribes opts operation then lang.generic outer field.name
      else lang.returnType { opts with subscriptionType := none } field operation := by
  split
  next h =>
    apply returnType_of_templatedType?
    rw [templatedType?, subscriptionType?_of_subscribes houter h]
  next h =>
    have hnone : subscriptionType? opts operation = none := by
      rwa [subscribes, Option.not_isSome_iff_eq_none] at h
    have hunset : subscriptionType? { opts with subscriptionType := none } operation = none :=
      ite_self none
    unfold returnType templatedType?
    rw [hnone, hunset]
    rfl

end Language

namespace Field

/-- A field that is shown as a subscription went into the subscription type. A field that went into
it is shown as one, unless its operation has a long s or a dotless i. -/
theorem shown_iff_subscribes (lang : Language) {opts : Options} {definition : Json}
    {outer operation : Text} (houter : Text.inForce? opts.subscriptionType = some outer)
    (h : Textual definition) (hname : (definition.get? "name").isSome = true)
    (hoperation : definition.get? "operation" = some (.str operation)) (hne : operation ≠ []) :
    ∃ field, ofDefinition lang opts definition = .ok field ∧
      field.type = .str
        (if Language.subscribes opts operation then lang.generic outer (listedName lang definition)
        else lang.returnType { opts with subscriptionType := none } (returnField lang definition)
          operation) ∧
      (field.operation = some ("subscription" : Text) →
        Language.subscribes opts operation = true) ∧
      ((Language.subscribes opts operation = true ↔
          field.operation = some ("subscription" : Text)) ↔
        ¬ (Language.subscribes opts operation = true ∧ (.scalar 'ſ' ∈ operation ∨ .scalar 'ı' ∈ operation))) := by
  have hgiven : operation? definition = some operation := by
    rw [operation?, Json.getD, hoperation]
    exact Option.filter_eq_some_iff.mpr ⟨rfl, by simpa using hne⟩
  have hshown : (ofTextual lang opts definition).operation = some ("subscription" : Text) ↔
      Language.subscribes opts operation = true ∧ .scalar 'ſ' ∉ operation ∧ .scalar 'ı' ∉ operation := by
    rw [Language.subscribes_iff houter, ← Text.lower_eq_subscription_iff, ofTextual, hgiven,
      Option.map_some, Option.some.injEq]
  refine ⟨_, ofDefinition_of_name lang opts h hname, ?_, fun hs => (hshown.mp hs).1, ?_⟩
  · rw [ofTextual, typeName, hgiven]
    exact congrArg Json.str (lang.returnType_subscribes houter _ operation)
  · rw [hshown]
    tauto

/-- Users as they come, under an operation spelled as given. -/
def userChanges (operation : Text) : Json :=
  .obj [("name", .str "users"), ("type", .str "User"), ("list", .bool true),
    ("operation", .str operation)]

theorem textual_userChanges (operation : Text) : Textual (userChanges operation) :=
  ⟨⟨"User", rfl⟩, .inr ⟨operation, rfl⟩, .inl rfl⟩

/-- Templates for a subscription and for what is none. -/
def streamed : Options where
  subscriptionType := some "fs2.Stream[F, %s]"
  returnType := some "Future"

theorem shown_userChanges :
    ∃ field, ofDefinition .scala streamed (userChanges "SubScription") = .ok field ∧
      field.type = .str "fs2.Stream[F, Seq[User]]" ∧
      field.operation = some ("subscription" : Text) := by
  obtain ⟨field, hfield, htype, -, hagree⟩ := @shown_iff_subscribes .scala streamed
    (userChanges "SubScription") "fs2.Stream[F, %s]" "SubScription" rfl
    (textual_userChanges "SubScription") rfl rfl (by decide)
  have hsubscribes : Language.subscribes streamed "SubScription" = true := by decide +kernel
  rw [if_pos hsubscribes] at htype
  exact ⟨field, hfield, htype.trans (congrArg Json.str (by decide +kernel)),
    (hagree.mpr (by decide +kernel)).mp hsubscribes⟩

/-- With a long s the rule applies, and the field is not shown as a subscription. -/
theorem long_s_not_shown :
    ¬ ∀ (lang : Language) (opts : Options) (definition : Json) (outer operation : Text),
        Text.inForce? opts.subscriptionType = some outer → Textual definition →
        (definition.get? "name").isSome = true →
        definition.get? "operation" = some (.str operation) → operation ≠ [] →
        ∃ field, ofDefinition lang opts definition = .ok field ∧
          (Language.subscribes opts operation = true ↔
            field.operation = some ("subscription" : Text)) := by
  intro h
  have htextual := textual_userChanges "ſubscription"
  obtain ⟨field, hfield, hagree⟩ := h .scala streamed (userChanges "ſubscription")
    "fs2.Stream[F, %s]" "ſubscription" rfl htextual rfl rfl (by decide)
  obtain rfl := Except.ok.inj ((ofDefinition_of_name .scala streamed htextual rfl).symm.trans hfield)
  have hshown := hagree.mp (by decide +kernel)
  exact absurd hshown (by decide +kernel)

end Field

end TargetTypes
