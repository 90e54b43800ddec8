import DomainLocator.Registry
import Mathlib.Data.Finset.Card
import Mathlib.Data.List.Induction
import Mathlib.Tactic.Lemma

namespace DomainLocator.Registry

structure Offer (α : Type) where
  name : String
  value : α

variable {α : Type} {r s : Registry α} {name : String} {value : α} {e : ServiceError} {offers : List (Offer α)}

def Offer.key (o : Offer α) : String :=
  Text.lowerCase o.name

def ofOffers (offers : List (Offer α)) : Registry α :=
  offers.foldl (fun r o => (r.insert o.name o.value).1) empty

def firstOffered (offers : List (Offer α)) (name : String) : Option α :=
  (offers.find? (·.key = Text.lowerCase name)).map Offer.value

def offeredKeys (offers : List (Offer α)) : Finset String :=
  (offers.map Offer.key).toFinset

lemma ofOffers_concat (offers : List (Offer α)) (o : Offer α) :
    ofOffers (offers ++ [o]) = ((ofOffers offers).insert o.name o.value).1 := by
  rw [ofOffers, List.foldl_concat, ← ofOffers]

lemma firstOffered_concat (offers : List (Offer α)) (o : Offer α) (name : String) :
    firstOffered (offers ++ [o]) name = (firstOffered offers name).or
      (if o.key = Text.lowerCase name then some o.value else none) := by
  rw [firstOffered, List.find?_append, Option.map_or, ← firstOffered]
  by_cases hk : o.key = Text.lowerCase name <;> simp [hk]

lemma card_offeredKeys_concat (offers : List (Offer α)) (o : Offer α) : (offeredKeys (offers ++ [o])).card =
    if o.key ∈ offeredKeys offers then (offeredKeys offers).card else (offeredKeys offers).card + 1 := by
  have hkeys : offeredKeys (offers ++ [o]) = Insert.insert o.key (offeredKeys offers) := by
    simp [offeredKeys, Finset.union_comm _ {o.key}]
  rw [hkeys, Finset.card_insert_eq_ite]

lemma mem_offeredKeys_iff : Text.lowerCase name ∈ offeredKeys offers ↔ ∃ o ∈ offers, o.key = Text.lowerCase name := by
  simp [offeredKeys]

lemma firstOffered_eq_none_iff : firstOffered offers name = none ↔ Text.lowerCase name ∉ offeredKeys offers := by
  simp [firstOffered, mem_offeredKeys_iff]

structure KeepsFirst (r : Registry α) (offers : List (Offer α)) : Prop where
  found : ∀ name, r.find? name = firstOffered offers name
  counted : r.size = (offeredKeys offers).card

namespace KeepsFirst

lemma insert_eq_error_iff (h : KeepsFirst r offers) : (r.insert name value).2 = .error e ↔
    Text.lowerCase name ∈ offeredKeys offers ∧ e = .duplicateKey (Text.lowerCase name) := by
  rw [Registry.insert_eq_error_iff, h.found, Ne, firstOffered_eq_none_iff, not_not]

lemma insert (h : KeepsFirst r offers) (o : Offer α) :
    KeepsFirst (r.insert o.name o.value).1 (offers ++ [o]) where
  found name := by
    rw [find?_insert, h.found, firstOffered_concat]
    rfl
  counted := by
    simp only [size_insert, h.found, firstOffered_eq_none_iff, ite_not, card_offeredKeys_concat, h.counted]
    rfl

end KeepsFirst

lemma keepsFirst_ofOffers (offers : List (Offer α)) : KeepsFirst (ofOffers offers) offers := by
  induction offers using List.reverseRecOn with
  | nil => exact ⟨find?_empty, rfl⟩
  | append_singleton offers o ih =>
    rw [ofOffers_concat]
    exact ih.insert o

/-- The insertion of `name` is any one of a run: it comes after the `offers` before it. -/
theorem first_offer_stays (offers : List (Offer α)) :
    let r := ofOffers offers
    (∀ name value, (∃ e, (r.insert name value).2 = .error e) ↔ ∃ o ∈ offers, o.key = Text.lowerCase name) ∧
    (∀ name value e, (r.insert name value).2 = .error e → e = .duplicateKey (Text.lowerCase name) ∧
      (r.insert name value).1 = r ∧ ofOffers (offers ++ [⟨name, value⟩]) = r) ∧
    (∀ name, r.find? name = firstOffered offers name) ∧
    r.size = (offeredKeys offers).card ∧ (r.isEmpty ↔ r.size = 0) := by
  intro r
  have h : KeepsFirst r offers := keepsFirst_ofOffers offers
  refine ⟨?_, ?_, h.found, h.counted, isEmpty_iff r⟩
  · intro name value
    rw [← mem_offeredKeys_iff]
    constructor
    · rintro ⟨e, he⟩
      exact (h.insert_eq_error_iff.mp he).1
    · exact fun hm => ⟨_, h.insert_eq_error_iff.mpr ⟨hm, rfl⟩⟩
  · intro name value e he
    refine ⟨(h.insert_eq_error_iff.mp he).2, insert_of_error he, ?_⟩
    rw [ofOffers_concat]
    exact insert_of_error he

def respelled : List (Offer Nat) :=
  [⟨"DC.b", 1⟩, ⟨"k", 2⟩, ⟨"dc.B", 3⟩, ⟨"\u212a", 4⟩, ⟨"a\u03a3", 5⟩, ⟨"A\u03c2", 6⟩, ⟨"a\u03c3", 7⟩]

theorem first_offers_of_respelled :
    (ofOffers respelled).insert "Dc.B" 8 = (ofOffers respelled, .error (.duplicateKey "dc.b")) ∧
      ofOffers (respelled ++ [⟨"Dc.B", 8⟩]) = ofOffers respelled ∧
      (ofOffers respelled).find? "dc.b" = some 1 ∧ (ofOffers respelled).find? "K" = some 2 ∧
      (ofOffers respelled).find? "A\u03a3" = some 5 ∧ (ofOffers respelled).find? "b" = none ∧
      (ofOffers respelled).size = 4 ∧ (ofOffers respelled).isEmpty = false := by
  obtain ⟨hfails, hrefused, hfound, hcounted, hempty⟩ := first_offer_stays respelled
  have hkey : Text.lowerCase "Dc.B" = "dc.b" := by decide +kernel
  obtain ⟨e, he⟩ := (hfails "Dc.B" 8).mpr (by decide +kernel)
  obtain ⟨rfl, hsame, hkept⟩ := hrefused _ _ _ he
  have hsize : (ofOffers respelled).size = 4 := by
    rw [hcounted]
    decide +kernel
  have hnonempty : (ofOffers respelled).isEmpty = false := by
    rw [Bool.eq_false_iff, Ne, hempty, hsize]
    decide
  rw [hkey] at he
  simp only [hfound]
  exact ⟨Prod.ext hsame he, hkept, by decide +kernel, by decide +kernel, by decide +kernel, by decide +kernel, hsize,
    hnonempty⟩

end DomainLocator.Registry
