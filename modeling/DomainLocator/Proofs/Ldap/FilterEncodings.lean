import DomainLocator.Ldap.Filter
import DomainLocator.Proofs.Ber.Acceptance

namespace DomainLocator.Ldap.Filter

open Ber (Fits Leeway)

mutual

def depth : Filter → Nat
  | .and filters => depthInside filters
  | .equality .. => 0

def depthInside : List Filter → Nat
  | [] => 0
  | filter :: filters => max (depth filter + 1) (depthInside filters)

end

mutual

def encodings (l : Leeway) : Filter → Language UInt8
  | .and filters => Ber.elements andTag (encodingsAll l filters)
  | .equality name value => Ber.elements equalityTag (Ber.texts l name * Ber.octetStrings value * l.tail)

def encodingsAll (l : Leeway) : List Filter → Language UInt8
  | [] => 1
  | filter :: filters => encodings l filter * encodingsAll l filters

end

variable {l l' : Leeway} {f : Filter} {filters : List Filter} {depth : Nat} {input contents rest : Octets}

lemma depthInside_lt_succ_iff : depthInside filters < depth + 1 ↔ ∀ f ∈ filters, f.depth < depth := by
  induction filters with
  | nil => simp [depthInside]
  | cons f filters ih => rw [depthInside, Nat.max_lt, ih, List.forall_mem_cons, Nat.add_lt_add_iff_right]

lemma encodingsAll_eq_prod (l : Leeway) (filters : List Filter) :
    encodingsAll l filters = (filters.map (encodings l)).prod := by
  induction filters with
  | nil => rfl
  | cons f filters ih => rw [encodingsAll, ih, List.map_cons, List.prod_cons]

mutual

lemma encodings_mono (h : l.Within l') : (f : Filter) → f.encodings l ≤ f.encodings l'
  | .and filters => Ber.elements_mono (encodingsAll_mono h filters)
  | .equality name _ => Ber.elements_mono (mul_le_mul' (mul_le_mul' (Ber.texts_mono h name) le_rfl) h.tail)

lemma encodingsAll_mono (h : l.Within l') : (filters : List Filter) → encodingsAll l filters ≤ encodingsAll l' filters
  | [] => le_rfl
  | f :: filters => mul_le_mul' (encodings_mono h f) (encodingsAll_mono h filters)

end

mutual

lemma write_mem : (f : Filter) → Fits f.write → f.write ∈ f.encodings .none
  | .and filters, hfits => Ber.element_mem hfits.contents (writeAll_mem filters hfits.contents)
  | .equality name value, hfits => by
    have hname := Ber.writeText_mem hfits.contents.left
    have hvalue := Ber.writeOctets_mem hfits.contents.right
    rw [encodings, Leeway.none, mul_one]
    exact Ber.element_mem hfits.contents (Language.append_mem_mul hname hvalue)

lemma writeAll_mem : (filters : List Filter) → Fits (writeAll filters) → writeAll filters ∈ encodingsAll .none filters
  | [], _ => Language.nil_mem_one
  | f :: filters, hfits => Language.append_mem_mul (write_mem f hfits.left) (writeAll_mem filters hfits.right)

end

lemma next_read_succ_iff : (read (depth + 1)).next input = .ok (f, rest) ↔
    ∃ e, Ber.read.next input = .ok (e, rest) ∧
      (e.tag = andTag ∧ (Ber.untilEnd (read depth) e.contents).map .and = .ok f ∨
        e.tag = equalityTag ∧ readEquality e.contents = .ok f) := by
  cases input with
  | nil =>
    constructor
    · intro h
      contradiction
    · rintro ⟨e, h, -⟩
      contradiction
  | cons tag after =>
    have hfirst : ∀ {e : Ber.Element}, Ber.read.next (tag :: after) = .ok (e, rest) → e.tag = tag := by
      intro e h
      obtain ⟨-, length, -, heq⟩ := Ber.next_read_eq_ok_iff.mp h
      exact (List.cons.inj heq).1
    have hne : equalityTag ≠ andTag := by decide
    by_cases hand : tag = andTag
    · subst hand
      have hread : (read (depth + 1)).next (andTag :: after) =
          (Ber.Item.andThen Ber.read fun e => (Ber.untilEnd (read depth) e.contents).map .and).next
            (andTag :: after) := rfl
      rw [hread, Ber.next_andThen_eq_ok_iff]
      grind
    by_cases hequality : tag = equalityTag
    · subst hequality
      have hread : (read (depth + 1)).next (equalityTag :: after) =
          (Ber.Item.andThen Ber.read fun e => readEquality e.contents).next (equalityTag :: after) := rfl
      rw [hread, Ber.next_andThen_eq_ok_iff]
      grind
    · have hread : (read (depth + 1)).next (tag :: after) =
          .error (.unsupportedChoice (Ber.classOf tag) (Ber.numberOf tag)) := by
        rw [Ber.Item.next, read, if_neg hand, if_neg hequality]
      rw [hread]
      grind

lemma readEquality_eq_ok_iff : readEquality contents = .ok f ↔
    ∃ name value, equality name value = f ∧ contents ∈ Ber.texts .any name * Ber.octetStrings value * ⊤ := by
  rw [readEquality, Ber.within_eq_ok_iff]
  constructor
  · rintro ⟨rest, hread⟩
    obtain ⟨name, _, hname, hread⟩ := Ber.run_bind_eq_ok_iff.mp hread
    obtain ⟨value, _, hvalue, hpure⟩ := Ber.run_bind_eq_ok_iff.mp hread
    cases hpure
    obtain ⟨-, first, hfirst, rfl⟩ := (Ber.takes_text ..).mp hname
    obtain ⟨-, second, hsecond, rfl⟩ := (Ber.takes_octetString ..).mp hvalue
    rw [← List.append_assoc]
    exact ⟨name, value, rfl, Language.append_mem_mul (Language.append_mem_mul hfirst hsecond) trivial⟩
  · rintro ⟨name, value, rfl, hcontents⟩
    obtain ⟨fields, hfields, rest, -, rfl⟩ := Language.mem_mul.mp hcontents
    obtain ⟨first, hfirst, second, hsecond, rfl⟩ := Language.mem_mul.mp hfields
    have hname := (Ber.takes_text (first ++ (second ++ rest)) name _).mpr ⟨trivial, first, hfirst, rfl⟩
    have hvalue := (Ber.takes_octetString (second ++ rest) value _).mpr ⟨trivial, second, hsecond, rfl⟩
    rw [List.append_assoc]
    exact ⟨rest, Ber.run_bind_eq_ok_iff.mpr ⟨name, _, hname, Ber.run_bind_eq_ok_iff.mpr ⟨value, _, hvalue, rfl⟩⟩⟩

lemma takes_read (depth : Nat) : Ber.Reading.Takes (read depth).next (encodings .any) fun f => f.depth < depth := by
  -- On the depth that is left: the filters inside an AND are read with one less.
  induction depth with
  | zero =>
    intro input f rest
    constructor
    · intro h
      contradiction
    · rintro ⟨h, -⟩
      exact absurd h (Nat.not_lt_zero _)
  | succ depth ih =>
    have hall := Ber.Decodes.untilEnd ih
    have hand : Ber.numberOf andTag ≠ 31 := by decide
    have hequality : Ber.numberOf equalityTag ≠ 31 := by decide
    intro input f rest
    rw [StateT.run, next_read_succ_iff]
    constructor
    · rintro ⟨⟨_, contents⟩, hread, ⟨rfl, hcontents⟩ | ⟨rfl, hcontents⟩⟩
      · obtain ⟨filters, hfilters, rfl⟩ := Ber.map_eq_ok_iff.mp hcontents
        obtain ⟨hdepth, hmem⟩ := (hall ..).mp hfilters
        simp only [encodings, encodingsAll_eq_prod, Filter.depth, depthInside_lt_succ_iff]
        exact ⟨hdepth, (Ber.exists_next_read_iff hand).mp ⟨contents, hread, hmem⟩⟩
      · obtain ⟨name, value, rfl, hmem⟩ := readEquality_eq_ok_iff.mp hcontents
        simp only [encodings, Filter.depth]
        exact ⟨Nat.succ_pos _, (Ber.exists_next_read_iff hequality).mp ⟨contents, hread, hmem⟩⟩
    · rintro ⟨hdepth, htaken⟩
      cases f with
      | and filters =>
        rw [encodings, encodingsAll_eq_prod] at htaken
        simp only [Filter.depth, depthInside_lt_succ_iff] at hdepth
        obtain ⟨contents, hread, hmem⟩ := (Ber.exists_next_read_iff hand).mpr htaken
        exact ⟨_, hread, .inl ⟨rfl, Ber.map_eq_ok_iff.mpr ⟨filters, (hall ..).mpr ⟨hdepth, hmem⟩, rfl⟩⟩⟩
      | equality name value =>
        rw [encodings] at htaken
        obtain ⟨contents, hread, hmem⟩ := (Ber.exists_next_read_iff hequality).mpr htaken
        exact ⟨_, hread, .inr ⟨rfl, readEquality_eq_ok_iff.mpr ⟨name, value, rfl, hmem⟩⟩⟩

end DomainLocator.Ldap.Filter
