import HlsEmit.Proofs.Template.Rendering
import HlsEmit.Proofs.Text.Position

/-! # What is wrong with a text, and where

A text that is no body has a first offence. What stands before it is a body, and the
reason can be read off the characters from there on. This is so because reading does
not look back: after a body it goes on with the rest as with a text of its own, only
that offsets also count the bytes of the body.
-/

namespace HlsEmit

open Text (byteSize)

theorem Text.byteSize_toList (text : String) : byteSize text.toList = text.utf8ByteSize := by
  have each : ∀ chars : List Char, byteSize chars = (String.ofList chars).utf8ByteSize := by
    intro chars
    induction chars with
    | nil => simp
    | cons c rest ih =>
        have apart : String.ofList (c :: rest) = String.singleton c ++ String.ofList rest := by
          simp
        rw [byteSize_cons, ih, apart, String.utf8ByteSize_append, String.utf8ByteSize_singleton]
  rw [each, String.ofList_toList]

namespace BodyError

/-- The byte at which the offence stands. -/
def offset : BodyError → Nat
  | single offset | unclosed offset | invalidPlaceholder _ offset => offset

/-- The reason tells what a text starts with. -/
inductive Describes : BodyError → List Char → Prop where
  /-- A closing brace that is not doubled. -/
  | single {offset rest} : rest.head? ≠ some '\x7d' → Describes (.single offset) ('\x7d' :: rest)
  /-- An opening brace that is neither doubled nor closed. -/
  | unclosed {offset rest} : rest.head? ≠ some '\x7b' → '\x7d' ∉ rest →
      Describes (.unclosed offset) ('\x7b' :: rest)
  /-- An opening brace that is not doubled, and before the next closing one no name. -/
  | invalidPlaceholder {offset name after} :
      (name.toList ++ '\x7d' :: after).head? ≠ some '\x7b' → '\x7d' ∉ name.toList →
      ¬ IsDottedName name.toList →
      Describes (.invalidPlaceholder name offset) ('\x7b' :: (name.toList ++ '\x7d' :: after))

@[simp] theorem offset_shift (reason : BodyError) (count : Nat) :
    (reason.shift count).offset = reason.offset + count := by
  cases reason <;> rfl

theorem Describes.ne_nil {reason : BodyError} {chars : List Char}
    (describes : reason.Describes chars) : chars ≠ [] := by
  cases describes <;> exact List.cons_ne_nil _ _

theorem Describes.shift {reason : BodyError} {chars : List Char}
    (describes : reason.Describes chars) (count : Nat) :
    (reason.shift count).Describes chars := by
  cases describes with
  | single alone => exact .single alone
  | unclosed alone open_ => exact .unclosed alone open_
  | invalidPlaceholder alone closed nameless => exact .invalidPlaceholder alone closed nameless

end BodyError

namespace Body

theorem splitClose_eq_none_iff {chars : List Char} :
    splitClose chars = none ↔ '\x7d' ∉ chars := by
  induction chars with
  | nil => simp [splitClose]
  | cons c rest ih =>
      by_cases closing : c = '\x7d'
      · simp [splitClose, closing]
      · simp [splitClose, closing, ih, eq_comm (a := '\x7d')]

theorem not_mem_of_splitClose {chars name after : List Char}
    (found : splitClose chars = some (name, after)) : '\x7d' ∉ name := by
  induction chars generalizing name with
  | nil => cases found
  | cons c rest ih =>
      rw [splitClose] at found
      split at found
      · obtain ⟨rfl, -⟩ := Prod.mk.inj (Option.some.inj found)
        exact List.not_mem_nil
      · rename_i open_
        obtain ⟨⟨inner, tail⟩, others, same⟩ := Option.map_eq_some_iff.mp found
        obtain ⟨rfl, rfl⟩ := Prod.mk.inj same
        intro member
        rcases List.mem_cons.mp member with closing | inside
        · exact open_ closing.symm
        · exact ih others inside

/-- A piece is read from the characters that write it, whatever follows. -/
theorem pieces_cons (offset : Nat) {piece : Piece} (named : piece.IsNamed) (rest : List Char) :
    pieces offset (piece.written ++ rest) =
      (pieces (offset + byteSize piece.written) rest).map (piece :: ·) := by
  cases piece with
  | hole name =>
      have size : byteSize (Piece.hole name).written = byteSize name.toList + 2 := by
        simp [Piece.written, Char.utf8Size]
        omega
      rw [written_hole_append, pieces_hole offset ((isName_iff name).mpr named), size]
  | char c =>
      rw [Piece.written]
      by_cases opening : c = '\x7b'
      · subst opening
        simp [Segment.escapeChar, pieces, Char.utf8Size]
      · by_cases closing : c = '\x7d'
        · subst closing
          simp [Segment.escapeChar, pieces, Char.utf8Size]
        · simp [Segment.escapeChar, pieces, opening, closing]

theorem pieces_append {offset : Nat} {front : List Char} {ps : List Piece}
    (accepted : pieces offset front = .ok ps) (rest : List Char) :
    pieces offset (front ++ rest) =
      (pieces (offset + byteSize front) rest).map (ps ++ ·) := by
  obtain ⟨rfl, named⟩ := written_of_pieces accepted
  clear accepted
  induction ps generalizing offset with
  | nil => cases read : pieces offset rest <;> simp [read, Except.map]
  | cons piece ps ih =>
      have later := @ih (offset + byteSize piece.written)
        fun other member => named other (List.mem_cons_of_mem _ member)
      rw [List.flatMap_cons, List.append_assoc, pieces_cons offset (named piece List.mem_cons_self),
        later, Text.byteSize_append, Nat.add_assoc]
      cases pieces _ rest <;> rfl

theorem pieces_of_describes {reason : BodyError} {chars : List Char}
    (describes : reason.Describes chars) : pieces reason.offset chars = .error reason := by
  have starts : ∀ rest : List Char, rest.head? ≠ some '\x7b' → ∀ after, rest ≠ '\x7b' :: after := by
    rintro rest alone after rfl
    exact alone rfl
  cases describes with
  | @single offset rest alone =>
      have ends : ∀ after, rest ≠ '\x7d' :: after := by
        rintro after rfl
        exact alone rfl
      exact pieces.eq_5 _ _ ends
  | @unclosed offset rest alone open_ =>
      have never := splitClose_eq_none_iff.mpr open_
      rw [pieces.eq_3 _ _ (starts rest alone)]
      split
      · rfl
      · rename_i found
        rw [never] at found
        cases found
  | @invalidPlaceholder offset name after alone closed nameless =>
      have found := splitClose_append (fun c member same => closed (same ▸ member)) after
      have refused : ¬ isName name = true := fun named => nameless ((isName_iff name).mp named)
      rw [pieces.eq_3 _ _ (starts _ alone)]
      split
      · rename_i never
        rw [found] at never
        cases never
      · rename_i chars rest also
        obtain ⟨rfl, rfl⟩ := Prod.mk.inj (Option.some.inj (found.symm.trans also))
        rw [String.ofList_toList, if_neg refused]
        rfl

/-- What characters at an offset start with, a piece or an offence. -/
inductive Starts (offset : Nat) (chars : List Char) : Prop where
  | piece (piece : Piece) (rest : List Char) :
      piece.IsNamed → chars = piece.written ++ rest → Starts offset chars
  | offence {reason : BodyError} :
      reason.offset = offset → reason.Describes chars → Starts offset chars

theorem starts_opening (offset : Nat) (rest : List Char) : Starts offset ('\x7b' :: rest) := by
  by_cases doubled : rest.head? = some '\x7b'
  · obtain ⟨after, rfl⟩ := List.head?_eq_some_iff.mp doubled
    exact .piece (.char '\x7b') after trivial rfl
  · cases found : splitClose rest with
    | none =>
        have open_ := splitClose_eq_none_iff.mp found
        exact .offence rfl (.unclosed doubled open_)
    | some pair =>
        obtain ⟨chars, after⟩ := pair
        have closed := not_mem_of_splitClose found
        obtain rfl := append_of_splitClose found
        obtain ⟨name, rfl⟩ : ∃ name : String, name.toList = chars := ⟨_, String.toList_ofList⟩
        by_cases named : IsDottedName name.toList
        · exact .piece (.hole name) after named (written_hole_append name after).symm
        · exact .offence rfl (.invalidPlaceholder doubled closed named)

theorem starts_cons (offset : Nat) (c : Char) (rest : List Char) : Starts offset (c :: rest) := by
  by_cases opening : c = '\x7b'
  · exact opening ▸ starts_opening offset rest
  · by_cases closing : c = '\x7d'
    · subst closing
      by_cases doubled : rest.head? = some '\x7d'
      · obtain ⟨after, rfl⟩ := List.head?_eq_some_iff.mp doubled
        exact .piece (.char '\x7d') after trivial rfl
      · exact .offence rfl (.single doubled)
    · have single : Piece.written (.char c) ++ rest = c :: rest := by
        simp [Piece.written, Segment.escapeChar, opening, closing]
      exact .piece (.char c) rest trivial single.symm

theorem Piece.written_ne_nil (piece : Piece) : piece.written ≠ [] := by
  cases piece with
  | hole name => exact List.cons_ne_nil _ _
  | char c => rw [Piece.written, Segment.escapeChar]; split <;> exact List.cons_ne_nil _ _

/-- A text that is refused has a front that is read and a rest that starts with the
    offence. By induction on the number of characters, since a piece takes several at
    once. -/
theorem exists_describes_of_pieces {offset : Nat} {chars : List Char} {reason : BodyError}
    (refused : pieces offset chars = .error reason) :
    ∃ front rest ps, front ++ rest = chars ∧ pieces offset front = .ok ps ∧
      reason.offset = offset + byteSize front ∧ reason.Describes rest := by
  induction size : chars.length using Nat.strong_induction_on generalizing offset chars with
  | _ count ih =>
      cases chars with
      | nil =>
          rw [pieces] at refused
          cases refused
      | cons c others =>
          rcases starts_cons offset c others with
            ⟨piece, rest, named, shape⟩ | ⟨placed, describes⟩
          · have shorter : rest.length < count := by
              have filled := List.length_pos_iff.mpr piece.written_ne_nil
              rw [← size, shape, List.length_append]
              omega
            rw [shape, pieces_cons offset named] at refused
            obtain ⟨front, back, ps, rfl, read, placed, describes⟩ :=
              ih _ shorter (Outcome.map_eq_error_iff.mp refused) rfl
            refine ⟨piece.written ++ front, back, piece :: ps, ?_, ?_, ?_, describes⟩
            · rw [shape, List.append_assoc]
            · rw [pieces_cons offset named, read]
              rfl
            · rw [placed, Text.byteSize_append, Nat.add_assoc]
          · rw [← placed, pieces_of_describes describes] at refused
            obtain rfl := Except.error.inj refused
            exact ⟨[], _, [], rfl, by rw [pieces], placed, describes⟩

/-- Whether a text is read does not depend on where it starts. -/
theorem pieces_of_eq_ok {offset : Nat} {chars : List Char} {ps : List Piece}
    (accepted : pieces offset chars = .ok ps) (other : Nat) : pieces other chars = .ok ps := by
  obtain ⟨rfl, named⟩ := written_of_pieces accepted
  exact pieces_written other named

end Body

namespace TemplateBody

open Body (Piece group pieces)

theorem parse_eq_ok_iff {text : String} {body : TemplateBody} :
    parse text = .ok body ↔ ∃ ps, pieces 0 text.toList = .ok ps ∧ ⟨group [] ps⟩ = body :=
  Outcome.map_eq_ok_iff

/-- The text of grouped pieces is the text of the pieces. -/
theorem render_group (ps : List Piece) (params : Params) :
    render ⟨group [] ps⟩ params = render ⟨ps.map ofPiece⟩ params := by
  rw [render_pieces, Body.pieces_group]
  rfl

theorem render_append_eq_ok_iff {front back : List Segment} {params : Params} {text : String} :
    render ⟨front ++ back⟩ params = .ok text ↔ ∃ first second,
      render ⟨front⟩ params = .ok first ∧ render ⟨back⟩ params = .ok second ∧
        text = first ++ second := by
  rw [render_append]
  constructor
  · intro rendered
    obtain ⟨first, head, rest⟩ := Outcome.bind_eq_ok_iff.mp rendered
    obtain ⟨second, tail, rfl⟩ := Outcome.map_eq_ok_iff.mp rest
    exact ⟨first, second, head, tail, rfl⟩
  · rintro ⟨first, second, head, tail, rfl⟩
    rw [head, tail]
    rfl

/-- Two bodies, one after the other, are a body whose text joins theirs. -/
theorem exists_parse_append {front back : String} {body other : TemplateBody}
    (read : parse front = .ok body) (also : parse back = .ok other) :
    ∃ whole, parse (front ++ back) = .ok whole ∧ ∀ params text,
      whole.render params = .ok text ↔ ∃ first second, body.render params = .ok first ∧
        other.render params = .ok second ∧ text = first ++ second := by
  obtain ⟨ps, frontRead, rfl⟩ := parse_eq_ok_iff.mp read
  obtain ⟨qs, backRead, rfl⟩ := parse_eq_ok_iff.mp also
  refine ⟨⟨group [] (ps ++ qs)⟩, parse_eq_ok_iff.mpr ⟨ps ++ qs, ?_, rfl⟩, ?_⟩
  · rw [String.toList_append, Body.pieces_append frontRead, Body.pieces_of_eq_ok backRead]
    rfl
  · intro params text
    simp only [render_group, List.map_append]
    exact render_append_eq_ok_iff

theorem exists_split_of_parse {text : String} {reason : BodyError}
    (refused : parse text = .error reason) :
    ∃ front rest, front ++ rest = text ∧ (∃ body, parse front = .ok body) ∧
      reason.offset = front.utf8ByteSize ∧ reason.Describes rest.toList := by
  obtain ⟨front, rest, ps, whole, read, placed, describes⟩ :=
    Body.exists_describes_of_pieces (Outcome.map_eq_error_iff.mp refused)
  refine ⟨String.ofList front, String.ofList rest, ?_,
    ⟨_, parse_eq_ok_iff.mpr ⟨ps, ?_, rfl⟩⟩, ?_, ?_⟩
  · rw [← String.toList_inj, String.toList_append, String.toList_ofList, String.toList_ofList,
      whole]
  · rwa [String.toList_ofList]
  · rw [placed, Nat.zero_add, ← Text.byteSize_toList, String.toList_ofList]
  · rwa [String.toList_ofList]

theorem parse_append_of_describes {front rest : String} {body : TemplateBody} {reason : BodyError}
    (read : parse front = .ok body) (placed : reason.offset = front.utf8ByteSize)
    (describes : reason.Describes rest.toList) : parse (front ++ rest) = .error reason := by
  obtain ⟨ps, frontRead, -⟩ := parse_eq_ok_iff.mp read
  have offset : 0 + byteSize front.toList = reason.offset := by
    rw [placed, Text.byteSize_toList, Nat.zero_add]
  rw [parse, String.toList_append, Body.pieces_append frontRead, offset,
    Body.pieces_of_describes describes]
  rfl

/-- A text is refused exactly if it is a body followed by an offence, which the reason
    describes and whose first byte it names. Behind a body, a text is refused for the
    same reason, and a body is read as it would be alone. -/
theorem parse_compositional :
    (∀ text reason, parse text = .error reason ↔
      ∃ front rest, front ++ rest = text ∧ (∃ body, parse front = .ok body) ∧
        reason.offset = front.utf8ByteSize ∧ reason.Describes rest.toList) ∧
    (∀ text reason, parse text = .error reason → reason.offset < text.utf8ByteSize) ∧
    (∀ front body text reason, parse front = .ok body → parse text = .error reason →
      parse (front ++ text) = .error (reason.shift front.utf8ByteSize)) ∧
    ∀ front back body other, parse front = .ok body → parse back = .ok other →
      ∃ whole, parse (front ++ back) = .ok whole ∧ ∀ params text,
        whole.render params = .ok text ↔ ∃ first second, body.render params = .ok first ∧
          other.render params = .ok second ∧ text = first ++ second := by
  refine ⟨fun text reason => ⟨exists_split_of_parse, ?_⟩, ?_, ?_, ?_⟩
  · rintro ⟨front, rest, rfl, ⟨body, read⟩, placed, describes⟩
    exact parse_append_of_describes read placed describes
  · intro text reason refused
    obtain ⟨front, rest, rfl, -, placed, describes⟩ := exists_split_of_parse refused
    have filled := Text.byteSize_pos describes.ne_nil
    rw [Text.byteSize_toList] at filled
    rw [placed, String.utf8ByteSize_append]
    omega
  · intro front body text reason read refused
    obtain ⟨before, rest, rfl, ⟨inner, also⟩, placed, describes⟩ := exists_split_of_parse refused
    obtain ⟨whole, both, -⟩ := exists_parse_append read also
    rw [← String.append_assoc]
    apply parse_append_of_describes both
    · rw [BodyError.offset_shift, placed, String.utf8ByteSize_append, Nat.add_comm]
    · exact describes.shift _
  · intro front back body other read also
    exact exists_parse_append read also

/-- A doubled brace before the offence belongs to what is read. -/
theorem parse_spaced_placeholder :
    parse "é\x7ba\x7d" = .ok ⟨[.literal "é", .placeholder "a"]⟩ ∧
      parse "\x7d\x7d\x7bb c\x7d" = .error (.invalidPlaceholder "b c" 2) ∧
      parse "é\x7ba\x7d\x7d\x7d\x7bb c\x7d" = .error (.invalidPlaceholder "b c" 7) := by
  have written : unparse [.literal "é", .placeholder "a"] = "é\x7ba\x7d" ∧
      unparse [.literal "\x7d"] = "\x7d\x7d" := by decide
  have front : parse "é\x7ba\x7d" = .ok ⟨[.literal "é", .placeholder "a"]⟩ :=
    written.1 ▸ parse_unparse (by decide)
  have brace : parse "\x7d\x7d" = .ok ⟨[.literal "\x7d"]⟩ :=
    written.2 ▸ parse_unparse (by decide)
  have nameless : ¬ IsDottedName "b c".toList :=
    fun named => absurd ((Body.isName_iff _).mpr named) (by decide)
  have describes :=
    @BodyError.Describes.invalidPlaceholder 2 "b c" [] (by decide) (by decide) nameless
  have refused : parse "\x7d\x7d\x7bb c\x7d" = .error (.invalidPlaceholder "b c" 2) :=
    (parse_compositional.1 _ _).mpr ⟨"\x7d\x7d", "\x7bb c\x7d", rfl, ⟨_, brace⟩, rfl, describes⟩
  exact ⟨front, refused, parse_compositional.2.2.1 _ _ _ _ front refused⟩

end TemplateBody

end HlsEmit
