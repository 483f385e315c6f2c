import SolidityLayout.Proofs.Failure.Attempt

/-!
# Comparing attempts

Two attempts at the same thing from different data end alike if both end with a
value, and the values are related, or both end with a failure, and the failures
are related.  Failures are compared by their kind alone or by all that is
reported of them, their kind and their words.
-/

namespace SolidityLayout

/-! ## Kinds and reports of failures -/

/-- The kinds of failures that can be told apart without a look at their
words. -/
inductive FailureKind
  | missingDefinition
  | missingNode
  | malformedTree
  | unreadableType
  | mappingKey
  | unknownTypeNode
  | artifact
  | refusedValue
  | refusedType
  | longNumber
  | longTypeNumber
  | tooLarge
  | noSuchPart
  | abstractType
  deriving DecidableEq, Repr

/-- The kind of an error of a layout computation. -/
def LayoutError.kind : LayoutError → FailureKind
  | missingDefinition _ => .missingDefinition
  | missingNode _ => .missingNode
  | malformedTree _ => .malformedTree
  | unreadableType _ _ => .unreadableType
  | mappingKey _ => .mappingKey
  | unknownTypeNode _ => .unknownTypeNode
  | artifact _ => .artifact

/-- The kind of a refusal. -/
def RefusedArgument.kind : RefusedArgument → FailureKind
  | arraySize _ | noMappingKeys => .refusedValue
  | slotValue _ | mappingKey _ | mappingValue _ => .refusedType

namespace Failure

/-- The kind of a failure. -/
def kind : Failure → FailureKind
  | layout error => error.kind
  | refused argument => argument.kind
  | longNumber => .longNumber
  | longTypeNumber => .longTypeNumber
  | tooLarge => .tooLarge
  | noSuchPart => .noSuchPart
  | abstractType => .abstractType

/-- The failure in words; some failures have none. -/
def message? : Failure → Option String
  | layout error => some error.message
  | refused argument => some argument.message
  | _ => none

/-- Two failures are of one kind. -/
def IsOfKindOf (failure other : Failure) : Prop :=
  other.kind = failure.kind

/-- Two failures are reported alike: they are of one kind and have the same
words. -/
def IsReportedLike (failure other : Failure) : Prop :=
  failure.IsOfKindOf other ∧ other.message? = failure.message?

theorem IsReportedLike.refl (failure : Failure) : failure.IsReportedLike failure :=
  ⟨rfl, rfl⟩

end Failure

namespace LayoutError

variable {error other : LayoutError}

theorem isOfKindOf_failure
    (hshow : other.isShowable = error.isShowable) (hkind : other.kind = error.kind) :
    error.failure.IsOfKindOf other.failure := by
  rw [failure, failure, hshow]
  split
  · exact hkind
  · rfl

theorem isReportedLike_failure
    (hshow : other.isShowable = error.isShowable) (hkind : other.kind = error.kind)
    (hmessage : other.message = error.message) :
    error.failure.IsReportedLike other.failure := by
  refine ⟨isOfKindOf_failure hshow hkind, ?_⟩
  rw [failure, failure, hshow]
  split
  · exact congrArg some hmessage
  · rfl

end LayoutError

/-! ## Attempts that end alike -/

namespace Attempt

variable {α β γ δ : Type}

/-- Two attempts end alike: with related values or with related failures. -/
def Related (T : α → β → Prop) (same : Failure → Failure → Prop) :
    Except Failure α → Except Failure β → Prop
  | .ok a, .ok b => T a b
  | .error failure, .error other => same failure other
  | _, _ => False

namespace Related

variable {T T' : α → β → Prop} {U : γ → δ → Prop} {same : Failure → Failure → Prop}
variable {attempt : Except Failure α} {other : Except Failure β}

theorem of_eq (hsame : ∀ failure, same failure failure) {first second : Except Failure α}
    (h : first = second) : Related Eq same first second := by
  subst h
  cases first with
  | error failure => exact hsame failure
  | ok a => rfl

theorem exists_ok {a : α} (h : Related T same attempt other) (ha : attempt = .ok a) :
    ∃ b, other = .ok b ∧ T a b := by
  subst ha
  cases other with
  | error failure => exact h.elim
  | ok b => exact ⟨b, rfl, h⟩

theorem mono (h : Related T same attempt other) (hT : ∀ a b, T a b → T' a b) :
    Related T' same attempt other := by
  cases attempt with
  | error failure => cases other <;> exact h
  | ok a =>
      cases other with
      | error failure => exact h
      | ok b => exact hT a b h

theorem map {f : α → γ} {g : β → δ} (h : Related T same attempt other)
    (hfg : ∀ a b, T a b → U (f a) (g b)) :
    Related U same (attempt.map f) (other.map g) := by
  cases attempt with
  | error failure => cases other <;> exact h
  | ok a =>
      cases other with
      | error failure => exact h
      | ok b => exact hfg a b h

/-- Notes that can both be shown, or neither of them, make no difference. -/
theorem noting {showable showable' : Bool} (hshow : showable' = showable)
    (hsame : same .longNumber .longNumber) (h : Related T same attempt other) :
    Related T same (noting showable attempt) (noting showable' other) := by
  subst hshow
  cases showable' with
  | true => exact h
  | false => exact hsame

theorem bind {f : α → Except Failure γ} {g : β → Except Failure δ}
    (h : Related T same attempt other)
    (hfg : ∀ a b, attempt = .ok a → T a b → Related U same (f a) (g b)) :
    Related U same (attempt.bind f) (other.bind g) := by
  cases attempt with
  | error failure =>
      cases other with
      | error failure => exact h
      | ok b => exact h.elim
  | ok a =>
      cases other with
      | error failure => exact h.elim
      | ok b => exact hfg a b rfl h

/-- Attempts over two lists end alike if those over corresponding items do. -/
theorem mapM {f : α → Except Failure γ} {g : β → Except Failure δ}
    {as : List α} {bs : List β} (h : List.Forall₂ T as bs)
    (hfg : ∀ a ∈ as, ∀ b, T a b → Related U same (f a) (g b)) :
    Related (List.Forall₂ U) same (as.mapM f) (bs.mapM g) := by
  induction h with
  | nil => exact List.Forall₂.nil
  | @cons a b as bs hab _ ih =>
      rw [List.mapM_cons, List.mapM_cons]
      apply (hfg a (by simp) b hab).bind
      intro c d _ hcd
      apply (ih fun x hx => hfg x (by simp [hx])).bind
      intro cs ds _ hcds
      exact List.Forall₂.cons hcd hcds

end Related

end Attempt

end SolidityLayout
