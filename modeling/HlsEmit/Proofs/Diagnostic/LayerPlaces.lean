import HlsEmit.Diagnostic.Failure
import HlsEmit.Proofs.Model.Description
import HlsEmit.Proofs.Model.Loading
import HlsEmit.Proofs.Project.FailurePolicy
import Mathlib

/-! # Where failing layers are shown

A layer is shown where its name first stands as the value of a key `name`. That is the
name of the layer itself only if no model, variable, type or layer called alike comes
before it, and if it is written without escapes.
-/

namespace HlsEmit

open Text (byteSize isBlank)

/-- The name stands at the offset, in quotation marks, as the value of a key `name`. -/
inductive NameAt (source : List Char) (name : String) : Nat → Prop where
  | key {before after : List Char} : source = before ++ (quotedName name ++ after) →
      endsInNameKey before.reverse → NameAt source name (byteSize before)

/-- The name has no quotation mark in it, and is more than a colon between blanks. -/
structure IsSearchable (name : String) : Prop where
  unquoted : '"' ∉ name.toList
  notColon : name.toList.filter (fun c => !isBlank c) ≠ [':']

instance (name : String) : Decidable (IsSearchable name) :=
  decidable_of_iff ('"' ∉ name.toList ∧ name.toList.filter (fun c => !isBlank c) ≠ [':'])
    ⟨fun ⟨unquoted, notColon⟩ => ⟨unquoted, notColon⟩,
      fun ⟨unquoted, notColon⟩ => ⟨unquoted, notColon⟩⟩

theorem isBlank_of_isSpace {space : List Char} (isSpace : Json.IsSpace space) :
    ∀ c ∈ space, isBlank c = true := by
  intro c inside
  rcases isSpace c inside with rfl | rfl | rfl | rfl <;> decide

theorem endsInNameKey_of_blank {blank chars : List Char} (isBlank : ∀ c ∈ blank, isBlank c = true) :
    endsInNameKey (blank ++ chars) = endsInNameKey chars := by
  rw [endsInNameKey, List.dropWhile_append_of_pos isBlank, endsInNameKey]

/-- An entry of an object that gives the name without escapes. -/
theorem NameAt.of_entry {name : String} {before space₁ space₂ after : List Char}
    (first : Json.IsSpace space₁) (second : Json.IsSpace space₂) :
    NameAt
      (before ++ ("\"name\"".toList ++ (space₁ ++ ':' :: (space₂ ++ (quotedName name ++ after)))))
      name (byteSize (before ++ ("\"name\"".toList ++ (space₁ ++ ':' :: space₂)))) := by
  have key : endsInNameKey (space₂.reverse ++
      ':' :: (space₁.reverse ++ ("\"eman\"".toList ++ before.reverse))) := by
    have blank₁ := isBlank_of_isSpace first
    have blank₂ := isBlank_of_isSpace second
    have solid : isBlank ':' = false ∧ isBlank '"' = false := by decide
    rw [endsInNameKey_of_blank (by simpa using blank₂), endsInNameKey,
      List.dropWhile_cons_of_neg (by simp [solid.1])]
    change List.isPrefixOf _ (List.dropWhile isBlank _) = true
    rw [List.dropWhile_append_of_pos (by simpa using blank₁)]
    change List.isPrefixOf _ (List.dropWhile isBlank ('"' :: _)) = true
    rw [List.dropWhile_cons_of_neg (by simp [solid.2])]
    exact List.isPrefixOf_iff_prefix.mpr (List.prefix_append _ _)
  exact @NameAt.key _ _ (before ++ ("\"name\"".toList ++ (space₁ ++ ':' :: space₂))) after (by simp)
    (by simpa using key)

/-- The entry of a key is part of the text of its object. -/
theorem exists_entry_of_given {entries : List (String × Json.Value)} {text : List Char}
    {forms : List Json.FieldForm} {form : Json.FieldForm} (fills : Json.Fills forms entries)
    (listed : form ∈ forms) (required : ¬form.optional)
    (writes : Json.Written (.object entries) text) :
    ∃ value part, form.admits value ∧ part <:+: text ∧
      Json.WrittenEntry (form.key, value) part := by
  obtain ⟨⟨key, value⟩, inside, rfl⟩ :=
    List.mem_map.mp ((fills.given form listed).resolve_right required)
  cases writes with
  | object written =>
      obtain ⟨part, contained, entry⟩ := written.exists_infix inside
      have admitted := fills.admitted form listed value inside
      exact ⟨value, part, admitted, List.infix_cons contained, entry⟩

theorem exists_value_of_given {entries : List (String × Json.Value)} {text : List Char}
    {forms : List Json.FieldForm} {form : Json.FieldForm} (fills : Json.Fills forms entries)
    (listed : form ∈ forms) (required : ¬form.optional)
    (writes : Json.Written (.object entries) text) :
    ∃ value part, form.admits value ∧ part <:+: text ∧ Json.Written value part := by
  obtain ⟨value, _, admitted, contained, entry⟩ :=
    exists_entry_of_given fills listed required writes
  cases entry with
  | @entry _ _ quoted space₁ space₂ part _ _ _ writes =>
      have inner : part <:+: quoted ++ (space₁ ++ ':' :: (space₂ ++ part)) :=
        ⟨quoted ++ (space₁ ++ ':' :: space₂), [], by simp⟩
      exact ⟨value, part, admitted, inner.trans contained, writes⟩

theorem exists_nameAt_of_entry {name : String} {part source : List Char}
    (writes : Json.WrittenEntry ("name", .text name) part) (contained : part <:+: source)
    (unescaped : '\\' ∉ source) : ∃ offset, NameAt source name offset := by
  have within : '\\' ∉ part := fun escaped => unescaped (contained.subset escaped)
  cases writes with
  | entry key isBefore isAfter writes =>
      cases writes with
      | text quotes =>
          simp only [List.mem_append, List.mem_cons, not_or] at within
          obtain ⟨before, after, rfl⟩ := contained
          rw [Json.eq_of_quotes key within.1, Json.eq_of_quotes quotes within.2.2.2.2]
          have place := @NameAt.of_entry name before _ _ after isBefore isAfter
          exact ⟨_, by simpa [quotedName] using place⟩

theorem exists_nameAt_of_isRecord {layer : Layer} {value : Json.Value} {part source : List Char}
    (isRecord : Json.IsRecord layer.forms value) (writes : Json.Written value part)
    (contained : part <:+: source) (unescaped : '\\' ∉ source) :
    ∃ offset, NameAt source layer.name offset := by
  obtain ⟨fills⟩ := isRecord
  have listed : ⟨"name", False, IsText layer.name⟩ ∈ layer.forms := List.mem_cons_self
  obtain ⟨_, entry, rfl, inner, writes⟩ := exists_entry_of_given fills listed id writes
  exact exists_nameAt_of_entry writes (inner.trans contained) unescaped

/-- A description without escapes has a place for the name of every layer. -/
theorem exists_nameAt_of_isDescribedBy {model : Model} {source : String}
    (described : model.IsDescribedBy source) (unescaped : '\\' ∉ source.toList) {layer : Layer}
    (inside : layer ∈ model.layers) : ∃ offset, NameAt source.toList layer.name offset := by
  obtain ⟨value, ⟨fills⟩, document⟩ := described
  have listed : ⟨"layers", False, AreLayers model.layers⟩ ∈ model.forms := by simp [Model.forms]
  generalize source.toList = source at document unescaped
  cases document with
  | @text before written after _ writes _ =>
      have whole : written <:+: before ++ (written ++ after) := ⟨before, after, by simp⟩
      obtain ⟨_, list, @⟨values, describe⟩, outer, writes⟩ :=
        exists_value_of_given fills listed id writes
      cases writes with
      | list items =>
          obtain ⟨index, bound, rfl⟩ := List.getElem_of_mem inside
          have bound' : index < values.length := describe.length_eq ▸ bound
          obtain ⟨part, contained, writes⟩ := items.exists_infix (List.getElem_mem bound')
          have within := (List.infix_cons contained).trans (outer.trans whole)
          exact exists_nameAt_of_isRecord (describe.get bound bound') writes within unescaped

theorem byteSize_reverse (chars : List Char) : byteSize chars.reverse = byteSize chars := by
  induction chars with
  | nil => rfl
  | cons c rest ih =>
      rw [List.reverse_cons, Text.byteSize_append, ih]
      simp [Nat.add_comm]

variable {pattern before rest : List Char} {pending : Nat}

/-- What is found is the pattern after the key. -/
theorem exists_of_nameOffset?_eq_some {offset : Nat}
    (found : nameOffset? pattern before pending rest = some offset) :
    ∃ between after, rest = between ++ (pattern ++ after) ∧
      endsInNameKey (between.reverse ++ before) ∧
      offset = byteSize (between.reverse ++ before) := by
  induction rest generalizing before pending with
  | nil => cases found
  | cons c rest ih =>
      have further : ∀ pending, nameOffset? pattern (c :: before) pending rest = some offset →
          ∃ between after, c :: rest = between ++ (pattern ++ after) ∧
            endsInNameKey (between.reverse ++ before) ∧
            offset = byteSize (between.reverse ++ before) := by
        intro pending found
        obtain ⟨between, after, rfl, key, place⟩ := ih found
        exact ⟨c :: between, after, rfl, by simpa using key, by simpa using place⟩
      rw [nameOffset?] at found
      split at found
      · rename_i here
        split at found
        · rename_i key
          obtain ⟨after, whole⟩ := List.isPrefixOf_iff_prefix.mp here.2
          exact ⟨[], after, whole.symm, key, (Option.some.inj found).symm⟩
        · exact further _ found
      · exact further _ found

/-- A place of the pattern is missed only where an earlier occurrence, which is not after the
    key, overlaps it. -/
theorem exists_nameOffset?_of_key {between after : List Char} (filled : pattern ≠ [])
    (apart : ∀ skipped left, between = skipped ++ left → left ≠ [] →
      pattern <+: left ++ (pattern ++ after) → ¬endsInNameKey (skipped.reverse ++ before) →
      pattern.length ≤ left.length)
    (key : endsInNameKey (between.reverse ++ before)) (free : pending ≤ between.length) :
    ∃ offset ≤ byteSize (between.reverse ++ before),
      nameOffset? pattern before pending (between ++ (pattern ++ after)) = some offset := by
  induction between generalizing before pending with
  | nil =>
      obtain ⟨c, tail, rfl⟩ := List.exists_cons_of_ne_nil filled
      have nothing : pending = 0 := by simpa using free
      refine ⟨byteSize before, le_rfl, ?_⟩
      rw [List.nil_append, List.cons_append, nameOffset?, if_pos ⟨nothing, by simp⟩]
      exact if_pos (by simpa using key)
  | cons c between ih =>
      have laterApart : ∀ skipped left, between = skipped ++ left → left ≠ [] →
          pattern <+: left ++ (pattern ++ after) →
          ¬endsInNameKey (skipped.reverse ++ c :: before) → pattern.length ≤ left.length := by
        intro skipped left split nonempty occurs other
        exact apart (c :: skipped) left (by rw [split, List.cons_append]) nonempty occurs
          (by simpa using other)
      have laterKey : endsInNameKey (between.reverse ++ c :: before) := by simpa using key
      have further : ∀ pending, pending ≤ between.length →
          ∃ offset ≤ byteSize ((c :: between).reverse ++ before),
            nameOffset? pattern (c :: before) pending (between ++ (pattern ++ after)) =
              some offset := by
        intro pending free
        obtain ⟨offset, bound, found⟩ := ih laterApart laterKey free
        exact ⟨offset, by simpa using bound, found⟩
      rw [List.cons_append, nameOffset?]
      split
      · rename_i here
        split
        · refine ⟨byteSize before, ?_, rfl⟩
          rw [Text.byteSize_append]
          exact Nat.le_add_left _ _
        · rename_i other
          have whole := apart [] (c :: between) rfl (List.cons_ne_nil _ _)
            (List.isPrefixOf_iff_prefix.mp here.2) (by simpa using other)
          exact further _ (by simp only [List.length_cons] at whole; omega)
      · exact further _ (by simp only [List.length_cons] at free; omega)

theorem filter_dropWhile_isBlank (chars : List Char) :
    (chars.dropWhile isBlank).filter (fun c => !isBlank c) =
      chars.filter (fun c => !isBlank c) := by
  induction chars with
  | nil => rfl
  | cons c rest ih =>
      cases blank : isBlank c with
      | true => simp [blank, ih]
      | false => simp [blank]

/-- Between a quotation mark and the end of the key stands no searchable name. -/
theorem not_endsInNameKey_of_isSearchable {name : String} (searchable : IsSearchable name)
    (before : List Char) : ¬endsInNameKey (name.toList.reverse ++ '"' :: before) := by
  have markSolid : isBlank '"' = false := by decide
  have unquoted : '"' ∉ name.toList.reverse := by simpa using searchable.unquoted
  have notColon : name.toList.reverse.filter (fun c => !isBlank c) ≠ [':'] := by
    rw [List.filter_reverse]
    exact fun colon => searchable.notColon (by simpa using congrArg List.reverse colon)
  generalize name.toList.reverse = chars at unquoted notColon
  rw [← filter_dropWhile_isBlank] at notColon
  rw [endsInNameKey, List.dropWhile_append]
  cases solid : chars.dropWhile isBlank with
  | nil => simp [markSolid]
  | cons c tail =>
      have inside : ∀ d ∈ tail, d ≠ '"' := by
        rintro d listed rfl
        have kept : '"' ∈ chars.dropWhile isBlank := solid ▸ List.mem_cons_of_mem c listed
        exact unquoted ((List.dropWhile_sublist _).subset kept)
      intro key
      rw [List.isEmpty_cons, if_neg Bool.false_ne_true, List.cons_append] at key
      split at key
      · rename_i colon
        obtain ⟨rfl, rfl⟩ := List.cons.inj colon
        rw [List.dropWhile_append] at key
        cases next : tail.dropWhile isBlank with
        | nil =>
            have blank : tail.filter (fun c => !isBlank c) = [] := by
              rw [← filter_dropWhile_isBlank, next, List.filter_nil]
            have colonSolid : isBlank ':' = false := by decide
            rw [solid] at notColon
            exact notColon (by simp [blank, colonSolid])
        | cons d rest =>
            have kept : d ∈ tail.dropWhile isBlank := next ▸ List.mem_cons_self
            have listed : d ∈ tail := (List.dropWhile_sublist _).subset kept
            rw [next, List.isEmpty_cons, if_neg Bool.false_ne_true] at key
            obtain ⟨after, same⟩ := List.isPrefixOf_iff_prefix.mp key
            exact inside d listed (List.cons.inj same).1.symm
      · cases key

/-- Two places of a searchable name overlap only where the first is no key's value. -/
theorem length_le_of_quotedName_prefix {name : String} (searchable : IsSearchable name)
    {left before after : List Char} (nonempty : left ≠ [])
    (occurs : quotedName name <+: left ++ (quotedName name ++ after))
    (key : endsInNameKey (left.reverse ++ before)) : (quotedName name).length ≤ left.length := by
  obtain ⟨following, same⟩ := occurs
  rcases List.append_eq_append_iff.mp same with ⟨shared, whole, -⟩ | ⟨shared, whole, others⟩
  · rw [whole, List.length_append]
    exact Nat.le_add_right _ _
  · obtain ⟨_, tail, rfl⟩ := List.exists_cons_of_ne_nil nonempty
    cases shared with
    | nil => simp [whole]
    | cons mark shared =>
        obtain ⟨rfl, -⟩ := List.cons.inj others
        obtain ⟨rfl, inner⟩ := List.cons.inj whole
        rcases List.eq_nil_or_concat shared with rfl | ⟨init, last, rfl⟩
        · obtain ⟨named, -⟩ := List.append_inj' inner rfl
          rw [← named, List.reverse_cons, List.append_assoc] at key
          exact absurd key (not_endsInNameKey_of_isSearchable searchable before)
        · have split : name.toList ++ ['"'] = (tail ++ '"' :: init) ++ [last] :=
            inner.trans (by simp)
          obtain ⟨named, -⟩ := List.append_inj' split rfl
          exact absurd (by rw [named]; simp) searchable.unquoted

theorem nameAt_of_layerSpan? {source : List Char} {name : String} {span : Span}
    (found : layerSpan? source name = some span) :
    NameAt source name span.start ∧ span.stop = span.start + byteSize (quotedName name) := by
  obtain ⟨start, offset, rfl⟩ := Option.map_eq_some_iff.mp found
  obtain ⟨between, after, whole, key, rfl⟩ := exists_of_nameOffset?_eq_some offset
  rw [List.append_nil, byteSize_reverse] at *
  exact ⟨.key whole key, rfl⟩

theorem exists_layerSpan?_of_nameAt {source : List Char} {name : String}
    (searchable : IsSearchable name) {offset : Nat} (place : NameAt source name offset) :
    ∃ span, layerSpan? source name = some span ∧ span.start ≤ offset := by
  cases place with
  | @key before after whole key =>
      have apart : ∀ skipped left, before = skipped ++ left → left ≠ [] →
          quotedName name <+: left ++ (quotedName name ++ after) →
          ¬endsInNameKey (skipped.reverse ++ []) → (quotedName name).length ≤ left.length := by
        rintro skipped left rfl nonempty occurs -
        exact length_le_of_quotedName_prefix searchable nonempty occurs (by simpa using key)
      have keyed : endsInNameKey (before.reverse ++ []) := by simpa using key
      obtain ⟨start, bound, found⟩ :=
        exists_nameOffset?_of_key (by simp [quotedName]) apart keyed (Nat.zero_le _)
      rw [List.append_nil, byteSize_reverse] at bound
      exact ⟨_, by rw [layerSpan?, whole, found]; rfl, bound⟩

namespace Diagnostic

/-- What the diagnostic shows of the source is the first place of the name. -/
structure PointsAt (diagnostic : Diagnostic) (source : List Char) (name : String) : Prop where
  shown : ∀ span ∈ diagnostic.span,
    NameAt source name span.start ∧ span.stop = span.start + byteSize (quotedName name)
  first : IsSearchable name → ∀ offset, NameAt source name offset →
    (∀ earlier < offset, ¬NameAt source name earlier) →
    diagnostic.span = some ⟨offset, offset + byteSize (quotedName name)⟩

theorem pointsAt_of_span {diagnostic : Diagnostic} {source : List Char} {name : String}
    (shows : diagnostic.span = layerSpan? source name) : diagnostic.PointsAt source name where
  shown span member := nameAt_of_layerSpan? (shows.symm.trans member)
  first := by
    intro searchable offset place least
    obtain ⟨⟨start, stop⟩, found, bound⟩ := exists_layerSpan?_of_nameAt searchable place
    obtain ⟨named, size⟩ := nameAt_of_layerSpan? found
    obtain rfl : start = offset :=
      Nat.le_antisymm bound (Nat.le_of_not_lt fun less => least start less named)
    obtain rfl : stop = start + byteSize (quotedName name) := size
    exact shows.trans found

theorem span_ofCodegenError (layer : String) (failure : CodegenError) (source : String) :
    (ofCodegenError layer failure source).span = layerSpan? source.toList layer := by
  cases failure <;> rfl

theorem layers_of_duplicateIndex {source first second : String} {index : UInt32}
    (refused : Model.ofText source = .error (.duplicateIndex index first second)) :
    ∃ model earlier later, Model.ofDocument source.toList = .ok model ∧
      [earlier, later].Sublist model.layers ∧ earlier.index = index ∧ later.index = index ∧
      earlier.name = first ∧ later.name = second := by
  rw [Model.ofText] at refused
  split at refused
  · cases refused
  · rename_i model read
    rw [Model.checked] at refused
    split at refused
    · rename_i earlier later clash
      obtain ⟨rfl, rfl, rfl⟩ := LoadError.duplicateIndex.inj (Except.error.inj refused)
      obtain ⟨ordered, same⟩ := Model.sublist_of_indexClash? clash
      exact ⟨model, earlier, later, read, ordered, same, rfl, rfl, rfl⟩
    · cases refused

/-- What the diagnostics of a source show of its layers. -/
structure LocatesLayers (source : String) : Prop where
  /-- A layer that fails is shown at the first place of its name. -/
  failing : ∀ model, Model.ofText source = .ok model → ∀ backend : Backend,
    ∃ project, backend.emitModel model .keepGoing = .ok project ∧
      ∀ name failure, (name, failure) ∈ project.failures →
        (∃ layer ∈ model.emittingLayers, layer.name = name ∧
          backend.emitLayer layer = .error failure) ∧
        (ofCodegenError name failure source).PointsAt source.toList name
  /-- Where nothing is escaped, there is such a place. -/
  unescaped : ∀ model : Model, model.IsDescribedBy source → '\\' ∉ source.toList →
    ∀ layer ∈ model.layers, IsSearchable layer.name →
      ∀ failure, (ofCodegenError layer.name failure source).span ≠ none
  /-- Of two layers that share an index the second one is shown in the same way. -/
  sharing : ∀ index first second,
    Model.ofText source = .error (.duplicateIndex index first second) →
      (∃ model earlier later, Model.ofDocument source.toList = .ok model ∧
        [earlier, later].Sublist model.layers ∧ earlier.index = index ∧ later.index = index ∧
        earlier.name = first ∧ later.name = second) ∧
      (ofLoadError (.duplicateIndex index first second) source).PointsAt source.toList second

theorem locatesLayers (source : String) : LocatesLayers source where
  failing := by
    intro model _ backend
    refine ⟨_, backend.emitModel_keepGoing model, ?_⟩
    intro name failure failed
    exact ⟨backend.mem_failuresOf_iff.mp failed, pointsAt_of_span (span_ofCodegenError ..)⟩
  unescaped := by
    intro model described unescaped layer inside searchable failure nothing
    obtain ⟨offset, place⟩ := exists_nameAt_of_isDescribedBy described unescaped inside
    obtain ⟨span, found, -⟩ := exists_layerSpan?_of_nameAt searchable place
    rw [span_ofCodegenError, found] at nothing
    cases nothing
  sharing := by
    intro index first second refused
    exact ⟨layers_of_duplicateIndex refused, pointsAt_of_span rfl⟩

/-! Two layers share an index. The second one is shown at its own name, unless the model has
that name too. -/

def untilSecondName (model : String) : String :=
  "\x7b\"name\":\"" ++ model ++
    "\",\"layers\":[\x7b\"name\":\"a\",\"kind\":\"Input\",\"index\":1\x7d,\x7b\"name\":"

def sharedIndexText (model : String) : String :=
  untilSecondName model ++ "\"b\",\"kind\":\"Dense\",\"index\":1\x7d]\x7d"

theorem ofText_eq_error {source : String} {reason : LoadError}
    (refused : (match Model.ofText source with
      | .ok _ => none
      | .error reason => some reason) = some reason) : Model.ofText source = .error reason := by
  cases result : Model.ofText source with
  | ok model => simp [result] at refused
  | error other => simpa [result] using refused

theorem pointsAt_sharedIndex :
    Model.ofText (sharedIndexText "m") = .error (.duplicateIndex 1 "a" "b") ∧
      (ofLoadError (.duplicateIndex 1 "a" "b") (sharedIndexText "m")).PointsAt
        (sharedIndexText "m").toList "b" ∧
      (ofLoadError (.duplicateIndex 1 "a" "b") (sharedIndexText "m")).span =
        some ⟨byteSize (untilSecondName "m").toList,
          byteSize (untilSecondName "m").toList + 3⟩ := by
  have refused : Model.ofText (sharedIndexText "m") = .error (.duplicateIndex 1 "a" "b") :=
    ofText_eq_error (by decide +kernel)
  exact ⟨refused, ((locatesLayers (sharedIndexText "m")).sharing 1 "a" "b" refused).2,
    by decide +kernel⟩

theorem span_namesake :
    Model.ofText (sharedIndexText "b") = .error (.duplicateIndex 1 "a" "b") ∧
      NameAt (sharedIndexText "b").toList "b" (byteSize (untilSecondName "b").toList) ∧
      (ofLoadError (.duplicateIndex 1 "a" "b") (sharedIndexText "b")).span = some ⟨8, 11⟩ ∧
      byteSize (untilSecondName "b").toList ≠ 8 := by
  refine ⟨ofText_eq_error (by decide +kernel), ?_, by decide +kernel, by decide +kernel⟩
  exact @NameAt.key _ _ (untilSecondName "b").toList
    ",\"kind\":\"Dense\",\"index\":1\x7d]\x7d".toList (by decide +kernel) (by decide +kernel)

end Diagnostic

end HlsEmit
