import HlsEmit.Diagnostic.Failure
import HlsEmit.Proofs.Backend.Growth

/-! # Following the advice for a missing parameter

The note of a missing parameter says what to add to the layer. A layer that heeds it
has more parameters than before, among them the missing one, and still all that came
before it in the body. So its text is missing a later placeholder, if any, and the
advice is given at most once per placeholder.
-/

namespace HlsEmit

/-- The layer with what the note for a placeholder says: a type if the placeholder is
    dotted, and otherwise an attribute of any value. -/
inductive Layer.Heeds (layer : Layer) (placeholder : String) : Layer → Prop
  | withType (precision : Precision) : '.' ∈ placeholder.toList → Heeds layer placeholder
      { layer with types := layer.types.insert (Diagnostic.missingName placeholder) precision }
  | withAttribute (value : Attribute) : '.' ∉ placeholder.toList → Heeds layer placeholder
      { layer with
        attributes := layer.attributes.insert (Diagnostic.missingName placeholder) value }

namespace Diagnostic

theorem takeWhile_append_of_dotless {front : List Char} (dotless : '.' ∉ front)
    (rest : List Char) : (front ++ rest).takeWhile (· ≠ '.') =
      front ++ rest.takeWhile (· ≠ '.') := by
  apply List.takeWhile_append_of_pos
  intro c inside
  have differs : c ≠ '.' := by
    rintro rfl
    exact dotless inside
  simpa using differs

theorem missingName_of_dotless {placeholder : String} (dotless : '.' ∉ placeholder.toList) :
    missingName placeholder = placeholder := by
  have whole := takeWhile_append_of_dotless dotless []
  rw [List.append_nil, List.takeWhile_nil, List.append_nil] at whole
  rw [missingName, whole, String.ofList_toList]

theorem missingName_append {type : String} (dotless : '.' ∉ type.toList) :
    missingName (type ++ ".name") = type := by
  rw [missingName, String.toList_append, takeWhile_append_of_dotless dotless]
  simp

end Diagnostic

theorem Table.contains_insert {α : Type} (table : Table α) (name other : String) (value : α) :
    (table.insert name value).contains other = true ↔
      name = other ∨ table.contains other = true := by
  rw [contains_eq_isSome, contains_eq_isSome, find?_insert]
  by_cases same : name = other <;> simp [same]

namespace Layer.Heeds

variable {layer next : Layer} {placeholder : String} (heeds : layer.Heeds placeholder next)
include heeds

theorem layer_extends : layer.Extends next := by
  cases heeds with
  | withType precision _ =>
      refine ⟨rfl, rfl, rfl, rfl, rfl, fun _ => id, ?_⟩
      intro name held
      exact (Table.contains_insert _ _ _ _).mpr (.inr held)
  | withAttribute value _ =>
      refine ⟨rfl, rfl, rfl, rfl, rfl, ?_, fun _ => id⟩
      intro name held
      exact (Table.contains_insert _ _ _ _).mpr (.inr held)

/-- What was missing is there. -/
theorem contains_defaults (role : Role) (dotted : '.' ∈ placeholder.toList →
      ∃ type, '.' ∉ type.toList ∧ placeholder = type ++ ".name") :
    (Params.defaults role next).contains placeholder = true := by
  cases heeds with
  | withType precision dot =>
      obtain ⟨type, dotless, rfl⟩ := dotted dot
      rw [Diagnostic.missingName_append dotless]
      refine Params.contains_defaults_of_type role ?_ (.inl rfl)
      exact (Table.contains_insert _ _ _ _).mpr (.inl rfl)
  | withAttribute value dotless =>
      rw [Diagnostic.missingName_of_dotless dotless]
      apply Params.contains_defaults_of_attribute role
      exact (Table.contains_insert _ _ _ _).mpr (.inl rfl)

/-- The order of channels is never what is missing, so the advice cannot change it. -/
theorem isChannelsFirst_iff (differs : placeholder ≠ "data_format") :
    next.IsChannelsFirst ↔ layer.IsChannelsFirst := by
  cases heeds with
  | withType => exact Iff.rfl
  | withAttribute value dotless =>
      rw [Diagnostic.missingName_of_dotless dotless, IsChannelsFirst, IsChannelsFirst, attribute?,
        Table.find?_insert_of_ne _ _ differs]
      rfl

end Layer.Heeds

/-- Names that are looked for and not found come later and later while names are added. -/
theorem idxOf_lt_of_find? {names : List String} {params others : Params} {missing later : String}
    (first : names.find? (fun name => !params.contains name) = some missing)
    (next : names.find? (fun name => !others.contains name) = some later)
    (covered : params.IsCoveredBy others) (found : others.contains missing = true) :
    names.idxOf missing < names.idxOf later := by
  obtain ⟨absent, before, after, rfl, present⟩ := List.find?_eq_some_iff_append.mp first
  have stillAbsent : others.contains later = false := by simpa using List.find?_some next
  have apart : later ∉ before := by
    intro inside
    have kept := covered later (by simpa using present later inside)
    rw [stillAbsent] at kept
    cases kept
  have differs : missing ≠ later := by
    rintro rfl
    rw [stillAbsent] at found
    cases found
  have fresh : missing ∉ before := by
    intro inside
    rw [Bool.not_eq_true'] at absent
    have held := present missing inside
    rw [absent] at held
    cases held
  rw [List.idxOf_append_of_notMem fresh, List.idxOf_append_of_notMem apart, List.idxOf_cons_self,
    List.idxOf_cons_ne _ differs]
  omega

/-- The types that kinds ask for have plain names. -/
theorem LayerKind.dotless_types {kind : LayerKind} {family : LayerFamily}
    (ofKind : kind.family? = some family) : ∀ type ∈ family.types kind, '.' ∉ type.toList := by
  cases kind
  case input => cases ofKind
  all_goals
    obtain rfl := Option.some.inj ofKind
    decide

namespace Sheet

/-- The body that the sheet has for a kind. -/
def body (sheet : Sheet) (kind : LayerKind) : TemplateBody :=
  TemplateBody.normalize (sheet.segments kind)

variable {backend : String} {dialect : Dialect} {sheet : Sheet} {layer next : Layer}
  {placeholder : String}

theorem mem_placeholders_body (kind : LayerKind) (name : String) :
    name ∈ (sheet.body kind).placeholders ↔
      name ∈ TemplateBody.placeholders ⟨sheet.segments kind⟩ := by
  rw [TemplateBody.mem_placeholders_iff, TemplateBody.mem_placeholders_iff, body]
  exact TemplateBody.placeholder_mem_normalize_iff _ name

theorem format_of_gives (covered : layer.kind ∈ sheet.spec.family.kinds) {params : Params}
    (given : sheet.Gives layer params) : sheet.template.format layer =
      ((sheet.body layer.kind).render params).mapError fun placeholder =>
        .missingParameter placeholder layer.kind sheet.spec.name := by
  rw [format_template covered, derive_eq_ok_iff.mpr given, body, TemplateBody.render_normalize]
  rfl

/-- No derivation misses a parameter, so what is missing is the first placeholder
    without a value. -/
theorem format_eq_missing_iff (member : sheet ∈ dialect.sheets backend)
    (covered : layer.kind ∈ sheet.spec.family.kinds) {kind : LayerKind} {name : String} :
    sheet.template.format layer = .error (.missingParameter placeholder kind name) ↔
      kind = layer.kind ∧ name = sheet.spec.name ∧ ∃ params, sheet.Gives layer params ∧
        (sheet.body layer.kind).unbound? params = some placeholder := by
  constructor
  · intro failed
    rcases format_eq_error_cases covered failed with
      ⟨d, inside, params, refused⟩ | ⟨params, other, given, -, -, same⟩
    · have derives := (dialect.isOf_sheets backend sheet member).derives d inside
      rcases derives.eq_error_cases refused with ⟨_, _, _, _, layout⟩ | ⟨_, _, _, _, invalid⟩
      · cases layout
      · cases invalid
    · obtain ⟨rfl, rfl, rfl⟩ := CodegenError.missingParameter.inj same
      refine ⟨rfl, rfl, params, given, ?_⟩
      rw [format_of_gives covered given, Outcome.mapError_eq_error_iff] at failed
      obtain ⟨first, missing, same⟩ := failed
      obtain ⟨rfl, -⟩ := CodegenError.missingParameter.inj same
      exact (TemplateBody.render_eq_error_iff _ _ _).mp missing
  · rintro ⟨rfl, rfl, params, given, first⟩
    have missing : (sheet.body layer.kind).render params = .error placeholder :=
      (TemplateBody.render_eq_error_iff _ _ _).mpr first
    rw [format_of_gives covered given, missing]
    rfl

/-- A layer that heeds the advice is refused for its layout only if it was before: the
    derivation has written the order, so no note asks for it. -/
theorem not_unsupportedLayout_of_heeds (member : sheet ∈ dialect.sheets backend)
    (covered : layer.kind ∈ sheet.spec.family.kinds) {params : Params}
    (given : sheet.Gives layer params) (absent : params.contains placeholder = false)
    (heeds : layer.Heeds placeholder next) (pooling : sheet.spec.family = Pooling.family)
    (differs : dialect ≠ .vivado)
    (invokes : sheet.spec.role = .call ∨ sheet.spec.role = .taskSequence) :
    ¬ next.IsChannelsFirst := by
  have names : Pooling.NamesKernel dialect sheet :=
    Pooling.namesKernel_of_invokes (pooling ▸ covered) member covered invokes
  have derived := derive_eq_ok_iff.mpr given
  rw [names.derive_eq] at derived
  by_cases said : layer.IsChannelsFirst
  · rw [Layout.order?, if_pos said, if_neg differs] at derived
    cases derived
  · rw [Layout.order?, if_neg said] at derived
    obtain rfl := Except.ok.inj derived
    have ordered : placeholder ≠ "data_format" := by
      rintro rfl
      rw [(Table.contains_insertAll _ _ _).mpr (.inl ⟨_, List.mem_cons_self, rfl⟩)] at absent
      cases absent
    exact fun first => said ((heeds.isChannelsFirst_iff ordered).mp first)

/-- A dotted placeholder stands for the name of a type with a plain name. -/
theorem exists_type_of_dotted (member : sheet ∈ dialect.sheets backend) {kind : LayerKind}
    (covered : kind ∈ sheet.spec.family.kinds) (used : placeholder ∈ (sheet.body kind).placeholders)
    (dot : '.' ∈ placeholder.toList) :
    ∃ type, '.' ∉ type.toList ∧ placeholder = type ++ ".name" := by
  have listed := (mem_placeholders_body kind placeholder).mp used
  obtain ⟨type, asked, rfl⟩ :=
    (dialect.isGrounded_sheets backend sheet member).dotted kind covered placeholder listed dot
  have ofKind := (dialect.isOf_sheets backend sheet member).family kind covered
  exact ⟨type, LayerKind.dotless_types ofKind type asked, rfl⟩

/-- The parameters of a layer that heeds the advice cover those before and have a value
    for what was missing. -/
theorem covers_of_heeds (member : sheet ∈ dialect.sheets backend)
    (covered : layer.kind ∈ sheet.spec.family.kinds) {params others : Params}
    (given : sheet.Gives layer params) (givenToo : sheet.Gives next others)
    (used : placeholder ∈ (sheet.body layer.kind).placeholders)
    (heeds : layer.Heeds placeholder next) :
    params.IsCoveredBy others ∧ others.contains placeholder = true := by
  have larger := heeds.layer_extends
  have derives := (dialect.isOf_sheets backend sheet member).derives
  constructor
  · exact given.isCoveredBy givenToo (fun d inside => (derives d inside).grows larger _)
      (larger.isCoveredBy_defaults _)
  · apply givenToo.contains_of_sets fun d inside => (derives d inside).isWriting
    exact .inl (heeds.contains_defaults _ (exists_type_of_dotted member covered used))

/-- The outcome after the advice: a text, an attribute of no use, or a missing
    placeholder that comes later. -/
inductive Advances (sheet : Sheet) (placeholder : String) (next : Layer) : Prop
  | text {text : String} : sheet.template.format next = .ok text → Advances sheet placeholder next
  | refused {attr why : String} :
      sheet.template.format next = .error (.invalidAttribute next.name attr why) →
      Advances sheet placeholder next
  | later {other : String} : sheet.template.format next =
        .error (.missingParameter other next.kind sheet.spec.name) →
      other ∈ (sheet.body next.kind).placeholders →
      (sheet.body next.kind).placeholders.idxOf placeholder <
        (sheet.body next.kind).placeholders.idxOf other →
      Advances sheet placeholder next

theorem advances_of_heeds (member : sheet ∈ dialect.sheets backend)
    (covered : layer.kind ∈ sheet.spec.family.kinds) {kind : LayerKind} {name : String}
    (failed : sheet.template.format layer = .error (.missingParameter placeholder kind name))
    (heeds : layer.Heeds placeholder next) : sheet.Advances placeholder next := by
  obtain ⟨-, -, params, given, first⟩ := (format_eq_missing_iff member covered).mp failed
  have used : placeholder ∈ (sheet.body layer.kind).placeholders := List.mem_of_find?_eq_some first
  have absent : params.contains placeholder = false := by simpa using List.find?_some first
  have larger := heeds.layer_extends
  have coveredToo : next.kind ∈ sheet.spec.family.kinds := by rwa [larger.kind]
  cases result : sheet.template.format next with
  | ok text => exact .text result
  | error reason =>
      rcases format_eq_error_cases coveredToo result with
        ⟨d, inside, _, refused⟩ | ⟨_, later, _, _, _, rfl⟩
      · have derives := (dialect.isOf_sheets backend sheet member).derives d inside
        rcases derives.eq_error_cases refused with
          ⟨pooling, differs, invokes, channels, -⟩ | ⟨_, _, attr, why, rfl⟩
        · have last := not_unsupportedLayout_of_heeds member covered given absent heeds pooling
            differs invokes
          exact absurd (next.channelsFirst_iff.mp channels) last
        · exact .refused result
      · obtain ⟨-, -, others, givenToo, still⟩ :=
          (format_eq_missing_iff member coveredToo).mp result
        obtain ⟨covers, found⟩ := covers_of_heeds member covered given givenToo used heeds
        refine .later result (List.mem_of_find?_eq_some still) ?_
        rw [larger.kind] at still ⊢
        exact idxOf_lt_of_find? first still covers found

end Sheet

namespace Backend

/-- The body that the backend fills for the kind in the role. -/
def HasBody (backend : Backend) (role : Role) (kind : LayerKind) (body : TemplateBody) : Prop :=
  ∃ template : LayerTemplate, backend.template? role kind = some template.toTemplate ∧
    template.bodyFor kind = .ok body

/-- The second layer comes from the first by heeding the advice for the role so many
    times. -/
inductive Heeded (backend : Backend) (role : Role) : Nat → Layer → Layer → Prop
  | done (layer : Layer) : Heeded backend role 0 layer layer
  | step {steps : Nat} {layer next last : Layer} {placeholder : String} {kind : LayerKind}
      {name : String} :
      backend.format role layer = .error (.missingParameter placeholder kind name) →
      layer.Heeds placeholder next → Heeded backend role steps next last →
      Heeded backend role (steps + 1) layer last

theorem hasBody_of_sheet {name : String} {dialect : Dialect} {sheet : Sheet} {kind : LayerKind}
    (member : sheet ∈ dialect.sheets name) (covered : kind ∈ sheet.spec.family.kinds) :
    (ofDialect name dialect).HasBody sheet.spec.role kind (sheet.body kind) := by
  refine ⟨sheet.template, template?_eq_some_iff.mpr
    ⟨List.mem_map_of_mem member, rfl, covered⟩, ?_⟩
  simp [LayerTemplate.bodyFor, Sheet.template, TemplateSpec.templateOf, TemplateSpec.lookup_map,
    covered, Sheet.body]

theorem Heeded.eq_zero {backend : Backend} {role : Role} {steps : Nat} {layer last : Layer}
    (heeded : backend.Heeded role steps layer last)
    (settled : ∀ placeholder kind name,
      backend.format role layer ≠ .error (.missingParameter placeholder kind name)) :
    steps = 0 := by
  cases heeded with
  | done => rfl
  | step failed => exact absurd failed (settled _ _ _)

/-- Each step uses up a placeholder of the body, since it moves the missing one on by one
    place at least. -/
theorem Heeded.idxOf_add_le {name : String} {dialect : Dialect} {sheet : Sheet}
    (member : sheet ∈ dialect.sheets name) {steps : Nat} {layer last : Layer}
    (heeded : (ofDialect name dialect).Heeded sheet.spec.role steps layer last)
    (covered : layer.kind ∈ sheet.spec.family.kinds) {placeholder : String} {kind : LayerKind}
    {template : String} (failed : (ofDialect name dialect).format sheet.spec.role layer =
      .error (.missingParameter placeholder kind template)) :
    (sheet.body layer.kind).placeholders.idxOf placeholder + steps ≤
      (sheet.body layer.kind).placeholders.length := by
  induction heeded generalizing placeholder kind template with
  | done => exact List.idxOf_le_length
  | @step steps layer next last missing _ _ also heeds rest ih =>
      have same := Except.error.inj (also.symm.trans failed)
      obtain ⟨rfl, -⟩ := CodegenError.missingParameter.inj same
      have larger := heeds.layer_extends
      have coveredToo : next.kind ∈ sheet.spec.family.kinds := by rwa [larger.kind]
      have nextFormat := format_of_sheet member coveredToo
      rw [format_of_sheet member covered] at failed
      obtain ⟨-, -, params, -, first⟩ := (Sheet.format_eq_missing_iff member covered).mp failed
      have inside := List.idxOf_lt_length_of_mem (List.mem_of_find?_eq_some first)
      cases Sheet.advances_of_heeds member covered failed heeds with
      | text formatted =>
          have settled := rest.eq_zero (by rw [nextFormat, formatted]; nofun)
          omega
      | refused invalid =>
          have settled := rest.eq_zero (by rw [nextFormat, invalid]; nofun)
          omega
      | later missing _ before =>
          have bound := ih coveredToo (nextFormat.trans missing)
          rw [larger.kind] at bound before
          omega

/-- Whoever heeds the advice for a missing parameter gets the text, learns that an
    attribute is of no use, or is told of a later placeholder. So the advice ends after at
    most as many steps as the body has placeholders. -/
theorem format_of_heeds (builtin : Builtin) :
    ∃ backend, builtin.backend = .ok backend ∧
      ∀ role layer placeholder kind template,
        backend.format role layer = .error (.missingParameter placeholder kind template) →
        ∃ body, backend.HasBody role layer.kind body ∧ placeholder ∈ body.placeholders ∧
          (∀ next, layer.Heeds placeholder next →
            (∃ text, backend.format role next = .ok text) ∨
            (∃ attr why,
              backend.format role next = .error (.invalidAttribute layer.name attr why)) ∨
            ∃ later, backend.format role next = .error (.missingParameter later kind template) ∧
              later ∈ body.placeholders ∧
              body.placeholders.idxOf placeholder < body.placeholders.idxOf later) ∧
          ∀ steps last, backend.Heeded role steps layer last →
            steps ≤ body.placeholders.length := by
  refine ⟨_, builtin.backend_eq_ok, ?_⟩
  intro role layer placeholder kind template failed
  cases supported : (ofDialect builtin.name builtin.dialect).supports role layer.kind with
  | false =>
      rw [format_of_not_supports supported] at failed
      cases failed
  | true =>
      obtain ⟨sheet, member, rfl, covered⟩ := exists_sheet_of_supports supported
      have missing := failed
      rw [format_of_sheet member covered] at missing
      obtain ⟨rfl, rfl, params, -, first⟩ := (Sheet.format_eq_missing_iff member covered).mp missing
      refine ⟨sheet.body layer.kind, hasBody_of_sheet member covered,
        List.mem_of_find?_eq_some first, ?_, ?_⟩
      · intro next heeds
        have larger := heeds.layer_extends
        have nextFormat := format_of_sheet member (show next.kind ∈ sheet.spec.family.kinds by
          rwa [larger.kind])
        rw [nextFormat, ← larger.kind, ← larger.name]
        cases Sheet.advances_of_heeds member covered missing heeds with
        | text formatted => exact .inl ⟨_, formatted⟩
        | refused invalid => exact .inr (.inl ⟨_, _, invalid⟩)
        | later missing inside before => exact .inr (.inr ⟨_, missing, inside, before⟩)
      · intro steps last heeded
        have bound := heeded.idxOf_add_le member covered failed
        omega

end Backend

/-- A dense layer without attributes. -/
def bareDense : Layer where
  name := "fc3"
  kind := .dense
  index := 3

/-- The same layer with its first size. -/
def sizedDense : Layer :=
  { bareDense with attributes := bareDense.attributes.insert "n_in" (.int 16) }

/-- The note asks for the first size, and then for something that comes later. -/
theorem Backend.format_sizedDense :
    ∃ backend, Builtin.vivado.backend = .ok backend ∧
      backend.format .config bareDense =
        .error (.missingParameter "n_in" .dense "Vivado:dense:config") ∧
      bareDense.Heeds "n_in" sizedDense ∧
      ∃ body, backend.HasBody .config .dense body ∧
        ∃ later, backend.format .config sizedDense =
            .error (.missingParameter later .dense "Vivado:dense:config") ∧
          body.placeholders.idxOf "n_in" < body.placeholders.idxOf later := by
  obtain ⟨backend, built, advised⟩ := Backend.format_of_heeds .vivado
  have missing : backend.format .config bareDense =
      .error (.missingParameter "n_in" .dense "Vivado:dense:config") := by
    obtain rfl := Except.ok.inj (Builtin.vivado.backend_eq_ok.symm.trans built)
    decide +kernel
  have still : backend.format .config sizedDense =
      .error (.missingParameter "n_out" .dense "Vivado:dense:config") := by
    obtain rfl := Except.ok.inj (Builtin.vivado.backend_eq_ok.symm.trans built)
    decide +kernel
  have heeds : bareDense.Heeds "n_in" sizedDense := .withAttribute (.int 16) (by decide)
  obtain ⟨body, has, -, each, -⟩ := advised .config bareDense "n_in" _ _ missing
  refine ⟨backend, built, missing, heeds, body, has, ?_⟩
  rcases each sizedDense heeds with ⟨_, formatted⟩ | ⟨_, _, refused⟩ | ⟨later, lacks, -, before⟩
  · cases still.symm.trans formatted
  · cases still.symm.trans refused
  · exact ⟨later, lacks, before⟩

end HlsEmit
