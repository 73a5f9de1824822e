/-
Module: Abacus.Json.Basic
Purpose: JSON values.
Main exports: Json, Json.field?, Json.isVacant, Json.index?
-/
import Abacus.Decimal.Double

namespace Abacus

/-- A JSON value.  A number written without a point or an exponent is an integer; any other is a
decimal and stands for the double next to it.  The fields of an object keep their order. -/
inductive Json where
  | null
  | bool (value : Bool)
  | int (value : Int)
  | decimal (value : Decimal)
  | text (value : String)
  | list (items : List Json)
  | object (fields : List (String × Json))
deriving Repr, Inhabited

namespace Json

/-! ### Equality -/

mutual

/-- Whether two values are the same. -/
def same : Json → Json → Bool
  | null, null => true
  | bool a, bool b => a == b
  | int a, int b => a == b
  | decimal a, decimal b => a == b
  | text a, text b => a == b
  | list as, list bs => sameItems as bs
  | object as, object bs => sameFields as bs
  | _, _ => false

/-- Whether two lists have the same items. -/
def sameItems : List Json → List Json → Bool
  | [], [] => true
  | a :: as, b :: bs => same a b && sameItems as bs
  | _, _ => false

/-- Whether two objects have the same fields in the same order. -/
def sameFields : List (String × Json) → List (String × Json) → Bool
  | [], [] => true
  | (j, a) :: as, (k, b) :: bs => j == k && same a b && sameFields as bs
  | _, _ => false

end

mutual

theorem eq_of_same : ∀ {a b : Json}, same a b = true → a = b
  | null, null, _ => rfl
  | bool a, bool b, h => by
      simp only [same, beq_iff_eq] at h
      rw [h]
  | int a, int b, h => by
      simp only [same, beq_iff_eq] at h
      rw [h]
  | decimal a, decimal b, h => by
      simp only [same, beq_iff_eq] at h
      rw [h]
  | text a, text b, h => by
      simp only [same, beq_iff_eq] at h
      rw [h]
  | list as, list bs, h => by
      simp only [same] at h
      rw [eq_of_sameItems h]
  | object as, object bs, h => by
      simp only [same] at h
      rw [eq_of_sameFields h]

theorem eq_of_sameItems : ∀ {as bs : List Json}, sameItems as bs = true → as = bs
  | [], [], _ => rfl
  | a :: as, b :: bs, h => by
      simp only [sameItems, Bool.and_eq_true] at h
      rw [eq_of_same h.1, eq_of_sameItems h.2]

theorem eq_of_sameFields : ∀ {as bs : List (String × Json)}, sameFields as bs = true → as = bs
  | [], [], _ => rfl
  | (j, a) :: as, (k, b) :: bs, h => by
      simp only [sameFields, Bool.and_eq_true, beq_iff_eq] at h
      rw [h.1.1, eq_of_same h.1.2, eq_of_sameFields h.2]

end

mutual

theorem same_refl : ∀ a : Json, same a a = true
  | null => rfl
  | bool a => by simp [same]
  | int a => by simp [same]
  | decimal a => by simp [same]
  | text a => by simp [same]
  | list as => by simpa only [same] using sameItems_refl as
  | object as => by simpa only [same] using sameFields_refl as

theorem sameItems_refl : ∀ as : List Json, sameItems as as = true
  | [] => rfl
  | a :: as => by simp [sameItems, same_refl a, sameItems_refl as]

theorem sameFields_refl : ∀ as : List (String × Json), sameFields as as = true
  | [] => rfl
  | (k, a) :: as => by simp [sameFields, same_refl a, sameFields_refl as]

end

theorem same_iff {a b : Json} : same a b = true ↔ a = b :=
  ⟨eq_of_same, fun eq => eq ▸ same_refl a⟩

instance : DecidableEq Json := fun _ _ => decidable_of_iff _ same_iff

/-! ### Looking into values -/

/-- The value of the last field of that name. -/
def field? (fields : List (String × Json)) (name : String) : Option Json :=
  (fields.reverse.find? (·.1 == name)).map (·.2)

/-- Whether the value says nothing: null, false, zero, or an empty text, list or object. -/
def isVacant : Json → Bool
  | null => true
  | bool value => !value
  | int value => value == 0
  | decimal value => value.toDouble == Double.zero
  | text value => value == ""
  | list items => items.isEmpty
  | object fields => fields.isEmpty

/-- The integer that a value counts as where an index is wanted: a truth value counts as one or
zero. -/
def index? : Json → Option Int
  | int value => some value
  | bool value => some (if value then 1 else 0)
  | _ => none

end Json

end Abacus
