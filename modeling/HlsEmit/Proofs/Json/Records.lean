import HlsEmit.Json.Record
import HlsEmit.Proofs.Json.Reading
import Mathlib

/-! # Reading records

A record is written as an object with its fields in any order. Optional fields may be
left out, and texts under other keys may be added. Read field by field, such an object
gives the record: whatever was read so far is the record without the fields to come.
-/

namespace HlsEmit.Json

open Reader

variable {α : Type}

/-- How a field of a record may be written. -/
structure FieldForm where
  key : String
  /-- The field may be left out. -/
  optional : Prop
  /-- The value may stand for the field. -/
  admits : Value → Prop

/-- The entries are those of a record whose fields have the given forms. -/
structure Fills (forms : List FieldForm) (entries : List (String × Value)) : Prop where
  admitted : ∀ form ∈ forms, ∀ value, (form.key, value) ∈ entries → form.admits value
  given : ∀ form ∈ forms, form.key ∈ entries.map Prod.fst ∨ form.optional
  once : ∀ form ∈ forms, (entries.map Prod.fst).count form.key ≤ 1
  /-- Texts may stand under other keys. -/
  others : ∀ entry ∈ entries, entry.1 ∉ forms.map FieldForm.key → ∃ text, entry.2 = .text text

/-- The value is an object of fields that have the given forms. -/
inductive IsRecord (forms : List FieldForm) : Value → Prop where
  | object {entries : List (String × Value)} : Fills forms entries →
      IsRecord forms (.object entries)

/-- The field reads what its form admits. The record with the fields of some keys is
    `known keys`. -/
structure ReadsField (known : List String → α) (field : RecordField α) (form : FieldForm) :
    Prop where
  key : field.key = form.key
  required : field.required → ¬form.optional
  reads : ∀ keys value, form.admits value →
    Decodes (field.read (known keys)) value (known (form.key :: keys))

/-- The schema reads records whose fields have the given forms. The record with the fields of
    some keys is `known keys`, and the record with all of them is `whole`. -/
structure Schema.Reads (schema : Schema α) (forms : List FieldForm) (known : List String → α)
    (whole : α) : Prop where
  blank : known [] = schema.blank
  fields : List.Forall₂ (ReadsField known) schema.fields forms
  other : ∀ key keys, key ∉ forms.map FieldForm.key → known (key :: keys) = known keys
  whole : ∀ keys, (∀ form ∈ forms, form.key ∈ keys ∨ form.optional) → known keys = whole

variable {schema : Schema α} {forms : List FieldForm} {known : List String → α} {whole : α}
  {entries : List (String × Value)} {keys : List String} {key : String} {value : Value}

theorem Schema.Reads.map_key (reads : schema.Reads forms known whole) :
    schema.fields.map RecordField.key = forms.map FieldForm.key := by
  have keys : List.Forall₂ (fun field form => field.key = form.key) schema.fields forms :=
    reads.fields.imp fun _ _ readsField => readsField.key
  exact List.forall₂_eq_eq_eq ▸
    List.forall₂_map_left_iff.mpr (List.forall₂_map_right_iff.mpr keys)

theorem Schema.Reads.exists_form (reads : schema.Reads forms known whole) {field : RecordField α}
    (inside : field ∈ schema.fields) : ∃ form ∈ forms, ReadsField known field form := by
  obtain ⟨index, bound, rfl⟩ := List.getElem_of_mem inside
  have bound' : index < forms.length := reads.fields.length_eq ▸ bound
  exact ⟨forms[index], List.getElem_mem bound', reads.fields.get bound bound'⟩

/-- The forms, but with other values under one key. -/
def withAdmitted (key : String) (admits : Value → Prop) (forms : List FieldForm) :
    List FieldForm :=
  forms.map fun form => if form.key = key then { form with admits } else form

theorem map_key_withAdmitted (key : String) (admits : Value → Prop) (forms : List FieldForm) :
    (withAdmitted key admits forms).map FieldForm.key = forms.map FieldForm.key := by
  rw [withAdmitted, List.map_map]
  refine List.map_congr_left fun form _ => ?_
  rw [Function.comp_apply]
  split <;> rfl

/-- Only the field of that key has to be looked at again. -/
theorem Schema.Reads.withAdmitted (reads : schema.Reads forms known whole)
    {admits : Value → Prop} (decodes : ∀ field ∈ schema.fields, field.key = key →
      ∀ keys value, admits value → Decodes (field.read (known keys)) value (known (key :: keys))) :
    schema.Reads (withAdmitted key admits forms) known whole where
  blank := reads.blank
  fields := by
    rw [Json.withAdmitted, List.forall₂_map_right_iff]
    have both := (List.forall₂_and_left _ _).mpr ⟨decodes, reads.fields⟩
    refine both.imp ?_
    rintro field form ⟨decodes, readsField⟩
    split
    · rename_i same
      refine ⟨readsField.key, readsField.required, ?_⟩
      rw [same]
      exact decodes (readsField.key.trans same)
    · exact readsField
  other := by
    rw [map_key_withAdmitted]
    exact reads.other
  whole := by
    intro keys complete
    refine reads.whole keys fun form listed => ?_
    have complete := complete _ (List.mem_map_of_mem listed)
    split at complete <;> exact complete

/-- One entry, its key being read. -/
theorem Schema.Reads.run_readEntry (reads : schema.Reads forms known whole)
    (fills : Fills forms entries) (inside : (key, value) ∈ entries)
    (fresh : key ∈ forms.map FieldForm.key → key ∉ keys)
    {before after written rest : List Char} (isBefore : IsSpace before) (isAfter : IsSpace after)
    (writes : Written value written) (boundary : IsBoundary rest) :
    (schema.readEntry keys (known keys) key).run
        (before ++ ':' :: (after ++ (written ++ rest))) =
      .ok (⟨key :: keys, .ok (known (key :: keys))⟩, rest) := by
  rw [readEntry]
  cases found : schema.field? key with
  | none =>
      have absent : key ∉ schema.fields.map RecordField.key := by
        rw [field?, List.find?_eq_none] at found
        intro held
        obtain ⟨field, listed, same⟩ := List.mem_map.mp held
        exact found field listed (by simpa using same)
      rw [reads.map_key] at absent
      obtain ⟨text, rfl⟩ := fills.others _ inside absent
      rw [run_bind_of_ok (run_colon isBefore),
        run_bind_of_ok (decodes_skipValue text writes isAfter boundary),
        reads.other key keys absent]
      rfl
  | some field =>
      have named : field.key = key := by simpa using List.find?_some found
      obtain ⟨form, listed, readsField⟩ := reads.exists_form (List.mem_of_find?_eq_some found)
      obtain rfl : form.key = key := readsField.key.symm.trans named
      have absent : ¬keys.contains form.key := by
        simpa using fresh (List.mem_map_of_mem listed)
      change (if keys.contains form.key then _ else _ : Reader (PartialRecord α)).run _ = _
      rw [if_neg absent, run_bind_of_ok (run_colon isBefore)]
      exact run_bind_of_ok (readsField.reads keys value (fills.admitted form listed value inside)
        writes isAfter boundary)

/-- What has been read of the entries is the record with the fields of their keys. -/
inductive RecordLeft (known : List String → α) (entries : List (String × Value)) :
    Bool → List (String × Value) → PartialRecord α → Prop where
  | intro {before later : List (String × Value)} : before ++ later = entries →
      RecordLeft known entries before.isEmpty later
        ⟨(before.map Prod.fst).reverse, .ok (known (before.map Prod.fst).reverse)⟩

theorem Schema.Reads.run_readObject (reads : schema.Reads forms known whole)
    (fills : Fills forms entries) {inner rest : List Char}
    (written : Items WrittenEntry '\x7d' true entries inner) :
    schema.readObject.run (inner ++ rest) = .ok (.ok whole, '\x7d' :: rest) := by
  rw [readObject, ← reads.blank]
  refine run_iterate .object (RecordLeft known entries) ?more ?done written
    (@RecordLeft.intro _ known entries [] entries rfl)
  case more =>
    intro first entry later state lead written rest left leads writes boundary
    cases left with
    | @intro before _ split =>
        have inside : entry ∈ entries := split ▸ List.mem_append_right _ List.mem_cons_self
        have fresh : entry.1 ∈ forms.map FieldForm.key →
            entry.1 ∉ (before.map Prod.fst).reverse := by
          intro listed again
          obtain ⟨form, listed, same⟩ := List.mem_map.mp listed
          have once := fills.once form listed
          rw [same, ← split, List.map_append, List.count_append, List.map_cons,
            List.count_cons_self] at once
          have twice := List.count_pos_iff.mpr (List.mem_reverse.mp again)
          omega
        have next : RecordLeft known entries false later
            ⟨entry.1 :: (before.map Prod.fst).reverse,
              .ok (known (entry.1 :: (before.map Prod.fst).reverse))⟩ := by
          have started : (before ++ [entry]).isEmpty = false := by simp
          have grown := @RecordLeft.intro _ known entries (before ++ [entry]) later
            (by rw [List.append_assoc, List.singleton_append, split])
          simpa [started] using grown
        refine ⟨_, ?_, next⟩
        have start : (before.map Prod.fst).reverse.isEmpty = before.isEmpty := by simp
        rw [← start] at leads
        cases writes with
        | entry quotes isBefore isAfter writes =>
            have read := reads.run_readEntry fills inside fresh isBefore isAfter writes boundary
            simp only [List.append_assoc, List.cons_append]
            refine (run_bind_of_ok (run_nextKey_item leads quotes)).trans ?_
            refine (run_bind_of_ok (run_text quotes _)).trans ?_
            exact run_bind_of_ok read
  case done =>
    intro first state space left isSpace
    cases left with
    | @intro before _ split =>
        have all : entries.map Prod.fst = before.map Prod.fst := by rw [← split, List.append_nil]
        have given : ∀ form ∈ forms, form.key ∈ (before.map Prod.fst).reverse ∨ form.optional := by
          intro form listed
          have given := fills.given form listed
          rwa [all, ← List.mem_reverse] at given
        have complete : schema.missing? (before.map Prod.fst).reverse = none := by
          rw [missing?, List.find?_eq_none]
          intro field held
          obtain ⟨form, listed, readsField⟩ := reads.exists_form held
          rcases given form listed with inside | optional
          · simp [readsField.key, List.mem_reverse.mp inside]
          · have notRequired : ¬field.required := fun required =>
              readsField.required required optional
            simp [notRequired]
        refine ⟨_, run_bind_of_ok (run_nextKey_close isSpace), ?_⟩
        simp only [complete, reads.whole _ given]
        rfl

theorem Schema.Reads.decodes (reads : schema.Reads forms known whole)
    (isRecord : IsRecord forms value) : Decodes (Reader.record schema) value whole := by
  intro text space rest written isSpace _
  obtain ⟨fills⟩ := isRecord
  cases written with
  | object written =>
      rw [Reader.record, List.cons_append, run_token?_bind isSpace (by decide)]
      exact run_within (reads.run_readObject fills written)

end HlsEmit.Json
