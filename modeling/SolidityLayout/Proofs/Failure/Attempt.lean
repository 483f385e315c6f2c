import Mathlib.Data.List.Forall2
import SolidityLayout.Failure.Basic

/-!
# Attempts and their failures

An attempt ends with a value or a failure.  A list of attempts made in order
succeeds exactly if all of them do, with their values in the same order, and
otherwise fails as the first one of them that fails.
-/

namespace SolidityLayout.Attempt

variable {α β : Type}

/-- The failure of an attempt that does not succeed. -/
def failure? : Except Failure α → Option Failure
  | .error failure => some failure
  | .ok _ => none

theorem failure?_eq_some_iff {attempt : Except Failure α} {failure : Failure} :
    failure? attempt = some failure ↔ attempt = .error failure := by
  cases attempt <;> simp [failure?]

theorem failure?_eq_none_iff {attempt : Except Failure α} :
    failure? attempt = none ↔ ∃ a, attempt = .ok a := by
  cases attempt <;> simp [failure?]

theorem map_eq_ok_iff {f : α → β} {attempt : Except Failure α} {b : β} :
    attempt.map f = .ok b ↔ ∃ a, attempt = .ok a ∧ f a = b := by
  cases attempt <;> simp [Except.map]

theorem bind_eq_ok_iff {f : α → Except Failure β} {attempt : Except Failure α} {b : β} :
    attempt.bind f = .ok b ↔ ∃ a, attempt = .ok a ∧ f a = .ok b := by
  cases attempt <;> simp [Except.bind]

theorem map_eq_error_iff {f : α → β} {attempt : Except Failure α} {failure : Failure} :
    attempt.map f = .error failure ↔ attempt = .error failure := by
  cases attempt <;> simp [Except.map]

theorem bind_eq_error_iff {f : α → Except Failure β} {attempt : Except Failure α}
    {failure : Failure} :
    attempt.bind f = .error failure ↔
      attempt = .error failure ∨ ∃ a, attempt = .ok a ∧ f a = .error failure := by
  cases attempt <;> simp [Except.bind]

theorem noting_eq_ok_iff {showable : Bool} {next : Except Failure α} {a : α} :
    noting showable next = .ok a ↔ showable = true ∧ next = .ok a := by
  cases showable <;> simp

theorem noting_eq_error_iff {showable : Bool} {next : Except Failure α} {failure : Failure} :
    noting showable next = .error failure ↔
      showable = true ∧ next = .error failure ∨ showable = false ∧ failure = .longNumber := by
  cases showable <;> simp [eq_comm]

@[simp]
theorem failure?_map (f : α → β) (attempt : Except Failure α) :
    failure? (attempt.map f) = failure? attempt := by
  cases attempt <;> rfl

/-- If an attempt yields just the values of one kind, it fails exactly if there is no
such value. -/
theorem not_exists_iff_exists_error {attempt : Except Failure α} {P : α → Prop}
    (h : ∀ a, attempt = .ok a ↔ P a) :
    (¬∃ a, P a) ↔ ∃ failure, attempt = .error failure := by
  simp only [← h]
  cases attempt <;> simp

/-- The values of attempts made in order are the values of the single ones, whatever
they fail with. -/
theorem mapM_eq_ok_iff {ε : Type} {f : α → Except ε β} {as : List α} {bs : List β} :
    as.mapM f = .ok bs ↔ List.Forall₂ (fun a b => f a = .ok b) as bs := by
  induction as generalizing bs with
  | nil => simp [pure, Except.pure, eq_comm]
  | cons a rest ih =>
      rw [List.mapM_cons, List.forall₂_cons_left_iff]
      cases ha : f a with
      | error failure => simp [bind, Except.bind]
      | ok b =>
          cases hrest : rest.mapM f with
          | error failure =>
              simp [bind, Except.bind, ← ih, hrest]
          | ok values =>
              simp [bind, Except.bind, pure, Except.pure, ← ih, hrest, eq_comm]

theorem exists_of_mapM_eq_ok
    {f : α → Except Failure β} {as : List α} {bs : List β}
    (h : as.mapM f = .ok bs) {b : β} (hb : b ∈ bs) :
    ∃ a ∈ as, f a = .ok b := by
  have hall := mapM_eq_ok_iff.mp h
  clear h
  induction hall with
  | nil => cases hb
  | @cons a value rest values ha _ ih =>
      rcases List.mem_cons.mp hb with rfl | hb
      · exact ⟨a, by simp, ha⟩
      · obtain ⟨a', ha', hvalue⟩ := ih hb
        exact ⟨a', by simp [ha'], hvalue⟩

/-- Attempts over two lists in a row are those over the first one and then those
over the second one. -/
theorem mapM_append_eq (f : α → Except Failure β) (front back : List α) :
    (front ++ back).mapM f =
      (front.mapM f).bind fun xs => (back.mapM f).map (xs ++ ·) := by
  rw [List.mapM_append]
  cases front.mapM f with
  | error failure => rfl
  | ok xs => cases back.mapM f <;> rfl

/-- Attempts made in order fail as the first one of them that fails. -/
theorem failure?_mapM (f : α → Except Failure β) (as : List α) :
    failure? (as.mapM f) = as.findSome? fun a => failure? (f a) := by
  induction as with
  | nil => rfl
  | cons a rest ih =>
      rw [List.mapM_cons, List.findSome?_cons, ← ih]
      cases f a with
      | error failure => rfl
      | ok b => cases rest.mapM f <;> rfl

theorem exists_mapM_eq_ok_iff {ε : Type} {f : α → Except ε β} {as : List α} :
    (∃ bs, as.mapM f = .ok bs) ↔ ∀ a ∈ as, ∃ b, f a = .ok b := by
  simp only [mapM_eq_ok_iff]
  induction as with
  | nil => simp
  | cons a rest ih =>
      rw [List.forall_mem_cons, ← ih]
      constructor
      · rintro ⟨bs, hbs⟩
        obtain ⟨b, values, hb, hvalues, rfl⟩ := List.forall₂_cons_left_iff.mp hbs
        exact ⟨⟨b, hb⟩, values, hvalues⟩
      · rintro ⟨⟨b, hb⟩, values, hvalues⟩
        exact ⟨b :: values, .cons hb hvalues⟩

theorem mapM_eq_error_iff {f : α → Except Failure β} {as : List α} {failure : Failure} :
    as.mapM f = .error failure ↔
      ∃ front a back, as = front ++ a :: back ∧
        (∀ x ∈ front, ∃ b, f x = .ok b) ∧ f a = .error failure := by
  rw [← failure?_eq_some_iff, failure?_mapM, List.findSome?_eq_some_iff]
  constructor
  · rintro ⟨front, a, back, rfl, ha, hfront⟩
    exact ⟨front, a, back, rfl, fun x hx => failure?_eq_none_iff.mp (hfront x hx),
      failure?_eq_some_iff.mp ha⟩
  · rintro ⟨front, a, back, rfl, hfront, ha⟩
    exact ⟨front, a, back, rfl, failure?_eq_some_iff.mpr ha,
      fun x hx => failure?_eq_none_iff.mpr (hfront x hx)⟩

/-! ## Ends of attempts -/

/-- An attempt ends with a value that satisfies `Q` or with a failure that
satisfies `P`. -/
def Ends (Q : α → Prop) (P : Failure → Prop) : Except Failure α → Prop
  | .ok a => Q a
  | .error failure => P failure

namespace Ends

variable {Q Q' : α → Prop} {P P' : Failure → Prop} {attempt : Except Failure α}

theorem of_eq_ok {a : α} (h : Ends Q P attempt) (hok : attempt = .ok a) : Q a := by
  rwa [hok] at h

theorem of_eq_error {failure : Failure}
    (h : Ends Q P attempt) (herror : attempt = .error failure) : P failure := by
  rwa [herror] at h

theorem mono (h : Ends Q P attempt)
    (hQ : ∀ a, Q a → Q' a) (hP : ∀ failure, P failure → P' failure) :
    Ends Q' P' attempt := by
  cases attempt with
  | error failure => exact hP failure h
  | ok a => exact hQ a h

theorem map {f : α → β} {R : β → Prop} (h : Ends (fun a => R (f a)) P attempt) :
    Ends R P (attempt.map f) := by
  cases attempt <;> exact h

theorem bind {f : α → Except Failure β} {R : β → Prop} (h : Ends Q P attempt)
    (hf : ∀ a, Q a → Ends R P (f a)) : Ends R P (attempt.bind f) := by
  cases attempt with
  | error failure => exact h
  | ok a => exact hf a h

theorem mapM {f : α → Except Failure β} {R : β → Prop} {as : List α}
    (h : ∀ a ∈ as, Ends R P (f a)) :
    Ends (fun bs => ∀ b ∈ bs, R b) P (as.mapM f) := by
  cases hbs : as.mapM f with
  | error failure =>
      rw [← failure?_eq_some_iff, failure?_mapM] at hbs
      obtain ⟨a, ha, hfailure⟩ := List.exists_of_findSome?_eq_some hbs
      exact (h a ha).of_eq_error (failure?_eq_some_iff.mp hfailure)
  | ok bs =>
      intro b hb
      obtain ⟨a, ha, hvalue⟩ := exists_of_mapM_eq_ok hbs hb
      exact (h a ha).of_eq_ok hvalue

end Ends

theorem findSome?_flatMap {γ : Type} (as : List α) (g : α → List β)
    (f : β → Option γ) :
    (as.flatMap g).findSome? f = as.findSome? fun a => (g a).findSome? f := by
  induction as with
  | nil => rfl
  | cons a rest ih =>
      rw [List.flatMap_cons, List.findSome?_append, ih, List.findSome?_cons]
      cases (g a).findSome? f <;> rfl

end SolidityLayout.Attempt
