import DomainLocator.Proofs.Ber.Rejection
import DomainLocator.Proofs.Ldap.MessageRoundTrip

/-! How deep a filter may be if it is to be read again. What counts is in how many ANDs a part of it lies, and this
may be a clause as well as an AND: in the last AND of a chain of 32 there is room for nothing. -/

namespace DomainLocator.Ldap

open Ber (Fits Leeway)

namespace Filter

/-- The part lies in so many ANDs of the filter. -/
inductive Holds : Filter → Nat → Filter → Prop
  | self (f : Filter) : Holds f 0 f
  | inside {f part : Filter} {filters : List Filter} {n : Nat} :
      f ∈ filters → Holds f n part → Holds (.and filters) (n + 1) part

mutual

def nesting : Filter → Nat
  | .and filters => nestingInside filters + 1
  | .equality .. => 0

def nestingInside : List Filter → Nat
  | [] => 0
  | filter :: filters => max (nesting filter) (nestingInside filters)

end

section Depth

variable {f part : Filter} {filters : List Filter} {n : Nat}

lemma holds_and_succ_iff : (Filter.and filters).Holds (n + 1) part ↔ ∃ f ∈ filters, f.Holds n part := by
  constructor
  · intro h
    cases h with
    | inside hf h => exact ⟨_, hf, h⟩
  · rintro ⟨f, hf, h⟩
    exact .inside hf h

lemma lt_nestingInside_iff : n < nestingInside filters ↔ ∃ f ∈ filters, n < f.nesting := by
  induction filters with
  | nil => simp [nestingInside]
  | cons f filters ih => simp only [nestingInside, lt_max_iff, ih, List.exists_mem_cons_iff]

lemma lt_nesting_iff : n < f.nesting ↔ ∃ filters, f.Holds n (.and filters) := by
  induction n generalizing f with
  | zero =>
    cases f with
    | and filters => exact ⟨fun _ => ⟨filters, .self _⟩, fun _ => Nat.succ_pos _⟩
    | equality name value =>
      constructor
      · intro h
        contradiction
      · rintro ⟨_, h⟩
        contradiction
  | succ n ih =>
    cases f with
    | and filters =>
      simp only [nesting, Nat.succ_lt_succ_iff, lt_nestingInside_iff, holds_and_succ_iff, ih]
      constructor
      · rintro ⟨f, hf, inner, h⟩
        exact ⟨inner, f, hf, h⟩
      · rintro ⟨inner, f, hf, h⟩
        exact ⟨f, hf, inner, h⟩
    | equality name value =>
      constructor
      · intro h
        contradiction
      · rintro ⟨_, h⟩
        contradiction

lemma le_depth_iff : n ≤ f.depth ↔ ∃ part, f.Holds n part := by
  induction n generalizing f with
  | zero => exact ⟨fun _ => ⟨f, .self f⟩, fun _ => Nat.zero_le _⟩
  | succ n ih =>
    cases f with
    | and filters =>
      rw [depth, ← Nat.not_lt, depthInside_lt_succ_iff]
      simp only [holds_and_succ_iff, not_forall, Nat.not_lt, ih]
      constructor
      · rintro ⟨f, hf, part, h⟩
        exact ⟨part, f, hf, h⟩
      · rintro ⟨part, f, hf, h⟩
        exact ⟨f, hf, part, h⟩
    | equality name value =>
      constructor
      · intro h
        contradiction
      · rintro ⟨_, h⟩
        contradiction

/-- No part lies in `n` ANDs if there is no chain of more, and no clause in the last AND of a chain of `n`. -/
lemma depth_lt_iff : f.depth < n ↔ f.nesting ≤ n ∧ ∀ name value, ¬ f.Holds n (.equality name value) := by
  rw [← Nat.not_le, le_depth_iff, ← Nat.not_lt, lt_nesting_iff, not_exists, not_exists]
  constructor
  · intro h
    exact ⟨fun filters => h (.and filters), fun name value => h (.equality name value)⟩
  · rintro ⟨hand, hclause⟩ part
    cases part with
    | and filters => exact hand filters
    | equality name value => exact hclause name value

end Depth

section Reading

variable {f : Filter} {filters : List Filter} {depth : Nat} {rest : Octets}

lemma reads_write (hdepth : f.depth < depth) (hfits : Fits f.write) : (read depth).Reads f.write f :=
  (takes_read depth).reads hdepth (encodings_mono Leeway.none_within_any f (f.write_mem hfits))

lemma write_ne_nil (f : Filter) : f.write ++ rest ≠ [] := by
  cases f <;> exact List.cons_ne_nil _ _

lemma untilEndOnto_writeAll {done : List Filter} (hfits : Fits (writeAll filters)) (h : ∃ f ∈ filters, depth ≤ f.depth)
    (hrefused : ∀ (f : Filter) rest, depth ≤ f.depth → Fits f.write →
      (read depth).next (f.write ++ rest) = .error (.invalidBer .deepFilter)) :
    Ber.untilEndOnto (read depth) done (writeAll filters) = .error (.invalidBer .deepFilter) := by
  induction filters generalizing done with
  | nil => simp at h
  | cons f filters ih =>
    rw [writeAll] at hfits ⊢
    by_cases hf : depth ≤ f.depth
    · exact Ber.untilEndOnto_eq_error (hrefused f _ hf hfits.left) f.write_ne_nil
    · rw [Ber.untilEndOnto_append (reads_write (Nat.lt_of_not_le hf) hfits.left)]
      apply ih hfits.right
      obtain ⟨g, hg, hdeep⟩ := h
      rcases List.mem_cons.mp hg with rfl | hg
      · exact absurd hdeep hf
      · exact ⟨g, hg, hdeep⟩

lemma next_read_write_of_deep (hdepth : depth ≤ f.depth) (hfits : Fits f.write) :
    (read depth).next (f.write ++ rest) = .error (.invalidBer .deepFilter) := by
  -- On the depth that is left, as the reader goes.
  induction depth generalizing f rest with
  | zero => rfl
  | succ depth ih =>
    cases f with
    | equality name value => contradiction
    | and filters =>
      have hinside : ∃ f ∈ filters, depth ≤ f.depth := by
        rw [Filter.depth, ← Nat.not_lt, depthInside_lt_succ_iff] at hdepth
        simpa using hdepth
      have hcontents : Ber.untilEnd (read depth) (writeAll filters) = .error (.invalidBer .deepFilter) :=
        untilEndOnto_writeAll hfits.contents hinside fun _ _ hdeep hfits => ih hdeep hfits
      have hread : (read (depth + 1)).next ((Filter.and filters).write ++ rest) =
          (Ber.Item.andThen Ber.read fun e => (Ber.untilEnd (read depth) e.contents).map .and).next
            (Ber.element andTag (writeAll filters) ++ rest) := rfl
      have helement : Ber.Item.Reads Ber.read (Ber.element andTag (writeAll filters)) ⟨andTag, writeAll filters⟩ :=
        Ber.reads_element (by decide) hfits.contents
      rw [hread, Ber.next_andThen_eq_error_iff]
      exact .inr ⟨_, _, helement rest, by rw [hcontents]; rfl⟩

end Reading

end Filter

section Requests

variable {s : SearchRequest} {e : WireError} {id : Int32} {rest : Octets}

lemma SearchRequest.read_write_eq_error (hfits : Fits s.write)
    (h : ∀ rest, (Filter.read Filter.maxDepth).next (s.filter.write ++ rest) = .error e) :
    Ber.Reading.within read s.write = .error e := by
  have hbase : Ber.text.Reads (Ber.writeText s.base) s.base := by
    have hfits := hfits.left.left.left.left.left.left.left
    exact Ber.takes_text.reads trivial (Ber.texts_mono Leeway.none_within_any _ (Ber.writeText_mem hfits))
  have hscope := Ber.takes_enumerated.reads trivial (Ber.writeEnumerated_mem s.scope.code)
  have hderef := Ber.takes_enumerated.reads trivial (Ber.writeEnumerated_mem s.deref.code)
  have hsize := Ber.takes_integer.reads trivial (Ber.writeInteger_mem s.sizeLimit)
  have htime := Ber.takes_integer.reads trivial (Ber.writeInteger_mem s.timeLimit)
  have htypes := Ber.takes_boolean.reads trivial (Ber.writeBoolean_mem s.typesOnly)
  -- All that stands before the filter is read.
  apply Ber.within_eq_error
  simp only [write, List.append_assoc]
  rw [read, hbase.run_bind, hscope.run_bind_code (Scope.ofCode_code _), hderef.run_bind_code (Deref.ofCode_code _),
    hsize.run_bind, htime.run_bind, htypes.run_bind]
  exact Ber.run_bind_eq_error (h _)

lemma Operation.run_read_request {after : Octets} : read.run (requestTag :: after) =
    StateT.run (do let e ← Ber.Item.next Ber.read; return .request (← SearchRequest.read.within e.contents))
      (requestTag :: after) := rfl

lemma Operation.run_read_eq_error (hfits : Fits s.write) (h : SearchRequest.read.within s.write = .error e) :
    read.run (Operation.request s).write = .error e := by
  have helement : Ber.Item.Reads Ber.read (Ber.element requestTag s.write) ⟨requestTag, s.write⟩ :=
    Ber.reads_element (by decide) hfits
  have hread := Ber.run_read_eq_error (f := Operation.request) helement h
  rw [Ber.element] at hread
  rw [write, Ber.element, run_read_request]
  exact hread

lemma Message.decode_toOctets_eq_error (hfits : Fits (toOctets ⟨id, .request s⟩))
    (h : ∀ rest, (Filter.read Filter.maxDepth).next (s.filter.write ++ rest) = .error e) :
    decode (toOctets ⟨id, .request s⟩ ++ rest) = .error e := by
  have hsearch : Fits s.write := hfits.contents.right.contents
  have hoperation := Operation.run_read_eq_error hsearch (SearchRequest.read_write_eq_error hsearch h)
  have hid := Ber.takes_integer.reads trivial (Ber.writeInteger_mem id)
  apply Ber.next_andThen_eq_error_iff.mpr
  right
  refine ⟨_, _, Ber.reads_ofType .sequence hfits.contents rest, ?_⟩
  apply Ber.within_eq_error
  rw [hid.run_bind]
  exact Ber.run_bind_eq_error hoperation

end Requests

namespace Filter

structure Limits {α : Type} (f : Filter) (value : α) (result : Except WireError α) : Prop where
  shallow : f.nesting ≤ 32 → (∀ name bs, ¬ f.Holds 32 (.equality name bs)) → result = .ok value
  chain : 32 < f.nesting → result = .error (.invalidBer .deepFilter)
  clause : ∀ name bs, f.Holds 32 (.equality name bs) → result = .error (.invalidBer .deepFilter)

lemma limits_of_depth {α : Type} {f : Filter} {value : α} {result : Except WireError α}
    (hok : f.depth < maxDepth → result = .ok value)
    (herror : maxDepth ≤ f.depth → result = .error (.invalidBer .deepFilter)) : f.Limits value result where
  shallow hnesting hclause := hok (depth_lt_iff.mpr ⟨hnesting, hclause⟩)
  chain h := by
    apply herror
    rw [← Nat.not_lt, depth_lt_iff]
    exact fun hdepth => absurd h (Nat.not_lt.mpr hdepth.1)
  clause name bs h := herror (le_depth_iff.mpr ⟨_, h⟩)

theorem nesting_limit (f : Filter) (hlength : f.write.length < UInt64.size) :
    (∀ rest, f.Limits (f, rest) ((read maxDepth).next (f.write ++ rest))) ∧
      ∀ id s rest, s.filter = f → (Message.toOctets ⟨id, .request s⟩).length < UInt64.size →
        f.Limits (⟨id, .request s⟩, rest) (Message.decode (Message.toOctets ⟨id, .request s⟩ ++ rest)) := by
  have hfits : Fits f.write := hlength
  constructor
  · intro rest
    exact limits_of_depth (fun h => reads_write h hfits rest) fun h => next_read_write_of_deep h hfits
  · rintro id s rest rfl hmessage
    apply limits_of_depth
    · intro h
      refine Message.reads ?_ hmessage rest
      rintro _ ⟨⟩
      exact h
    · intro h
      exact Message.decode_toOctets_eq_error hmessage fun _ => next_read_write_of_deep h hfits

def nested : Nat → Filter → Filter
  | 0, f => f
  | n + 1, f => .and [nested n f]

lemma nesting_nested (n : Nat) (f : Filter) : (nested n f).nesting = f.nesting + n := by
  induction n with
  | zero => rfl
  | succ n ih => rw [nested, nesting, nestingInside, nestingInside, ih, Nat.max_zero, Nat.add_assoc]

lemma depth_nested (n : Nat) (f : Filter) : (nested n f).depth = f.depth + n := by
  induction n with
  | zero => rfl
  | succ n ih => rw [nested, depth, depthInside, depthInside, ih, Nat.max_zero, Nat.add_assoc]

theorem nesting_limit_of_empty :
    let f := nested 31 (.and [])
    f.write.length < UInt64.size ∧ f.nesting = 32 ∧ (read maxDepth).next f.write = .ok (f, []) ∧
      (Filter.and [f]).write.length < UInt64.size ∧ (Filter.and [f]).nesting = 33 ∧
      (read maxDepth).next (Filter.and [f]).write = .error (.invalidBer .deepFilter) := by
  intro f
  have hlength : f.write.length < UInt64.size := by decide +kernel
  have hlength' : (Filter.and [f]).write.length < UInt64.size := by decide +kernel
  have hnesting : f.nesting = 32 := nesting_nested 31 (.and [])
  have hnesting' : (Filter.and [f]).nesting = 33 := nesting_nested 32 (.and [])
  have hdepth : f.depth < 32 := by
    rw [depth_nested]
    decide
  have hread := (nesting_limit f hlength).1 []
  have hread' := (nesting_limit (.and [f]) hlength').1 []
  rw [List.append_nil] at hread hread'
  exact ⟨hlength, hnesting, hread.shallow hnesting.le (depth_lt_iff.mp hdepth).2, hlength', hnesting',
    hread'.chain (by omega)⟩

theorem clause_in_last_refused :
    let f := nested 32 (.equality "a" [])
    let m : Message := ⟨1, .request { filter := f }⟩
    f.nesting = 32 ∧ (read maxDepth).next f.write = .error (.invalidBer .deepFilter) ∧
      m.toOctets.length < UInt64.size ∧ Message.decode m.toOctets = .error (.invalidBer .deepFilter) := by
  intro f m
  have hlength : m.toOctets.length < UInt64.size := by decide +kernel
  have hfits : Fits m.toOctets := hlength
  have hdeep : maxDepth ≤ f.depth := by
    rw [depth_nested]
    exact Nat.le_add_left 32 _
  have hrefused : ∀ rest, (read maxDepth).next (f.write ++ rest) = .error (.invalidBer .deepFilter) :=
    fun _ => next_read_write_of_deep hdeep hfits.contents.right.contents.left.right
  have hfilter := hrefused []
  have hmessage : Message.decode (m.toOctets ++ []) = .error (.invalidBer .deepFilter) :=
    Message.decode_toOctets_eq_error hfits hrefused
  rw [List.append_nil] at hfilter hmessage
  exact ⟨nesting_nested 32 _, hfilter, hlength, hmessage⟩

end Filter

end DomainLocator.Ldap
