import Std.Data.HashMap
import DomainLocator.ServiceError
import DomainLocator.Text.LowerCase

/-! Values kept under names whose case does not matter. A name is looked up as a whole: there are no wildcards, and no
name stands for those below it. -/

namespace DomainLocator

structure Registry (α : Type) where
  entries : Std.HashMap String α := ∅

namespace Registry

variable {α : Type}

def empty : Registry α := {}

def find? (r : Registry α) (name : String) : Option α :=
  r.entries[Text.lowerCase name]?

def insert (r : Registry α) (name : String) (value : α) : Registry α × Except ServiceError Unit :=
  let key := Text.lowerCase name
  if key ∈ r.entries then (r, .error (.duplicateKey key))
  else (⟨r.entries.insert key value⟩, .ok ())

def size (r : Registry α) : Nat :=
  r.entries.size

def isEmpty (r : Registry α) : Bool :=
  r.entries.isEmpty

@[simp]
theorem find?_empty (name : String) : (empty : Registry α).find? name = none := by
  simp [find?, empty]

theorem find?_congr (r : Registry α) {name other : String} (h : Text.lowerCase name = Text.lowerCase other) :
    r.find? name = r.find? other := by
  rw [find?, find?, h]

theorem insert_of_taken {r : Registry α} {name : String} (h : r.find? name ≠ none) (value : α) :
    r.insert name value = (r, .error (.duplicateKey (Text.lowerCase name))) :=
  if_pos (by simpa [find?] using h)

theorem insert_of_free {r : Registry α} {name : String} (h : r.find? name = none) (value : α) :
    r.insert name value = (⟨r.entries.insert (Text.lowerCase name) value⟩, .ok ()) :=
  if_neg (by simpa [find?] using h)

theorem insert_eq_ok_iff {r : Registry α} {name : String} {value : α} :
    (r.insert name value).2 = .ok () ↔ r.find? name = none := by
  by_cases h : r.find? name = none
  · simp [insert_of_free h, h]
  · simp [insert_of_taken h, h]

theorem insert_eq_error_iff {r : Registry α} {name : String} {value : α} {e : ServiceError} :
    (r.insert name value).2 = .error e ↔ r.find? name ≠ none ∧ e = .duplicateKey (Text.lowerCase name) := by
  by_cases h : r.find? name = none
  · simp [insert_of_free h, h]
  · simp [insert_of_taken h, h, eq_comm]

theorem insert_of_error {r : Registry α} {name : String} {value : α} {e : ServiceError}
    (h : (r.insert name value).2 = .error e) : (r.insert name value).1 = r := by
  rw [insert_of_taken (insert_eq_error_iff.mp h).1]

theorem find?_insert (r : Registry α) (name : String) (value : α) (other : String) :
    (r.insert name value).1.find? other =
      (r.find? other).or (if Text.lowerCase name = Text.lowerCase other then some value else none) := by
  by_cases h : r.find? name = none
  · rw [insert_of_free h, find?, Std.HashMap.getElem?_insert]
    by_cases hk : Text.lowerCase name = Text.lowerCase other
    · simp [hk, ← find?_congr r hk, h]
    · simp [hk, find?]
  · rw [insert_of_taken h]
    by_cases hk : Text.lowerCase name = Text.lowerCase other
    · obtain ⟨first, hf⟩ := Option.ne_none_iff_exists'.mp h
      rw [← find?_congr r hk, hf, Option.some_or]
    · rw [if_neg hk, Option.or_none]

theorem size_insert (r : Registry α) (name : String) (value : α) :
    (r.insert name value).1.size = if r.find? name = none then r.size + 1 else r.size := by
  by_cases h : r.find? name = none
  · have hk : Text.lowerCase name ∉ r.entries := by simpa [find?] using h
    rw [insert_of_free h, if_pos h, size, Std.HashMap.size_insert, if_neg hk, size]
  · rw [insert_of_taken h, if_neg h]

theorem isEmpty_iff (r : Registry α) : r.isEmpty ↔ r.size = 0 := by
  rw [isEmpty, size, Std.HashMap.isEmpty_eq_size_eq_zero, beq_iff_eq]

end Registry

end DomainLocator
