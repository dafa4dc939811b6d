import HlsEmit.Proofs.Outcome
import HlsEmit.Template.Body
import Mathlib.Data.List.Chain

/-! # The syntax of template bodies

Reading a body and writing its segments are inverse to each other. The accepted
texts are the written forms of segments whose placeholders are dotted
identifiers, and each of them is the written form of exactly one list in normal
form: literals are not empty and no two of them are neighbours.

Pieces stand between texts and segments. A text is the written form of at most
one list of pieces, since a brace of the text is doubled and a name has no brace;
segments in normal form are the one way to group pieces.
-/

namespace HlsEmit

/-- The letters of names. -/
def IsNameLetter (c : Char) : Prop := ('A' ≤ c ∧ c ≤ 'Z') ∨ ('a' ≤ c ∧ c ≤ 'z') ∨ c = '_'

/-- A letter or an underscore, and then letters, digits and underscores. -/
def IsIdentifier : List Char → Prop
  | [] => False
  | first :: rest => IsNameLetter first ∧ ∀ c ∈ rest, IsNameLetter c ∨ ('0' ≤ c ∧ c ≤ '9')

/-- Identifiers joined by single dots. -/
inductive IsDottedName : List Char → Prop where
  | identifier {part : List Char} : IsIdentifier part → IsDottedName part
  | dotted {part rest : List Char} :
      IsIdentifier part → IsDottedName rest → IsDottedName (part ++ '.' :: rest)

namespace Body

theorem isAlpha_iff (c : Char) :
    c.isAlpha = true ↔ ('A' ≤ c ∧ c ≤ 'Z') ∨ ('a' ≤ c ∧ c ≤ 'z') := by
  have ranges : c.isAlpha = (decide ('A'.val ≤ c.val ∧ c.val ≤ 'Z'.val) ||
      (decide ('a'.val ≤ c.val) && decide (c.val ≤ 'z'.val))) := rfl
  simp [ranges, Char.le_def]

theorem isNameStart_iff (c : Char) : isNameStart c = true ↔ IsNameLetter c := by
  simp [isNameStart, IsNameLetter, isAlpha_iff, or_assoc]

theorem isNameRest_iff (c : Char) :
    isNameRest c = true ↔ IsNameLetter c ∨ ('0' ≤ c ∧ c ≤ '9') := by
  have digits : c.isDigit = (decide ('0'.val ≤ c.val) && decide (c.val ≤ '9'.val)) := rfl
  have either : c.isAlphanum = (c.isAlpha || c.isDigit) := rfl
  simp [isNameRest, IsNameLetter, either, isAlpha_iff, digits, Char.le_def]
  tauto

theorem isDotted_false_cons (c : Char) (rest : List Char) :
    isDotted false (c :: rest) = (isNameStart c && isDotted true rest) := by
  by_cases dot : c = '.'
  · subst dot; rfl
  · simp [isDotted, dot]

theorem isDotted_true_append {chars : List Char} (all : ∀ c ∈ chars, isNameRest c = true)
    (rest : List Char) : isDotted true (chars ++ rest) = isDotted true rest := by
  induction chars with
  | nil => rfl
  | cons c chars ih =>
      have ok : isNameRest c = true := all c (by simp)
      have notDot : c ≠ '.' := by rintro rfl; exact absurd ok (by decide)
      simp [isDotted, notDot, ok, ih (fun d inside => all d (by simp [inside]))]

/-- An identifier goes on until a dot or the end. -/
theorem isDotted_true_iff (chars : List Char) :
    isDotted true chars = true ↔ ∃ part, (∀ c ∈ part, isNameRest c = true) ∧
      (chars = part ∨ ∃ rest, chars = part ++ '.' :: rest ∧ isDotted false rest = true) := by
  constructor
  · intro accepted
    induction chars with
    | nil => exact ⟨[], by simp, .inl rfl⟩
    | cons c chars ih =>
        by_cases dot : c = '.'
        · subst dot
          exact ⟨[], by simp, .inr ⟨chars, rfl, by simpa [isDotted] using accepted⟩⟩
        · simp only [isDotted, dot, if_false, if_true, Bool.and_eq_true] at accepted
          obtain ⟨part, all, shape⟩ := ih accepted.2
          refine ⟨c :: part, by simpa [accepted.1] using all, ?_⟩
          rcases shape with rfl | ⟨rest, rfl, dotted⟩
          · exact .inl rfl
          · exact .inr ⟨rest, rfl, dotted⟩
  · rintro ⟨part, all, rfl | ⟨rest, rfl, dotted⟩⟩
    · simpa [isDotted] using isDotted_true_append all []
    · rw [isDotted_true_append all]
      simpa [isDotted] using dotted

theorem isIdentifier_cons (first : Char) (rest : List Char) :
    IsIdentifier (first :: rest) ↔ isNameStart first = true ∧ ∀ c ∈ rest, isNameRest c = true := by
  simp only [IsIdentifier, isNameStart_iff, isNameRest_iff]

theorem isDotted_of_isDottedName {chars : List Char} (named : IsDottedName chars) :
    isDotted false chars = true := by
  induction named with
  | @identifier part single =>
      cases part with
      | nil => exact single.elim
      | cons first others =>
          obtain ⟨letter, all⟩ := (isIdentifier_cons first others).mp single
          rw [isDotted_false_cons, letter, Bool.true_and]
          exact (isDotted_true_iff others).mpr ⟨others, all, .inl rfl⟩
  | @dotted part rest single _ ih =>
      cases part with
      | nil => exact single.elim
      | cons first others =>
          obtain ⟨letter, all⟩ := (isIdentifier_cons first others).mp single
          rw [List.cons_append, isDotted_false_cons, letter, Bool.true_and]
          exact (isDotted_true_iff _).mpr ⟨others, all, .inr ⟨rest, rfl, ih⟩⟩

theorem isDottedName_of_isDotted : ∀ {chars : List Char},
    isDotted false chars = true → IsDottedName chars
  | [], accepted => absurd accepted (by decide)
  | first :: others, accepted => by
      rw [isDotted_false_cons, Bool.and_eq_true] at accepted
      obtain ⟨letter, goesOn⟩ := accepted
      obtain ⟨part, all, alone | ⟨rest, more, dotted⟩⟩ := (isDotted_true_iff others).mp goesOn
      · exact .identifier ((isIdentifier_cons first others).mpr ⟨letter, alone ▸ all⟩)
      · rw [more]
        have single : IsIdentifier (first :: part) :=
          (isIdentifier_cons first part).mpr ⟨letter, all⟩
        exact .dotted single (isDottedName_of_isDotted dotted)
termination_by chars => chars.length
decreasing_by
  have shorter := congrArg List.length more
  simp only [List.length_append, List.length_cons] at shorter ⊢
  omega

/-- The scan of a name accepts the dotted identifiers. -/
theorem isName_iff (name : String) : isName name = true ↔ IsDottedName name.toList :=
  ⟨isDottedName_of_isDotted, isDotted_of_isDottedName⟩

/-- A name has no brace, so its end is the first closing brace after it. -/
theorem ne_brace_of_isDotted {inside : Bool} {chars : List Char}
    (accepted : isDotted inside chars = true) : ∀ c ∈ chars, c ≠ '\x7b' ∧ c ≠ '\x7d' := by
  induction chars generalizing inside with
  | nil => simp
  | cons c rest ih =>
      intro d member
      by_cases dot : c = '.'
      · subst dot
        simp only [isDotted, if_true, Bool.and_eq_true] at accepted
        rcases List.mem_cons.mp member with rfl | member
        · decide
        · exact ih accepted.2 d member
      · simp only [isDotted, dot, if_false, Bool.and_eq_true] at accepted
        rcases List.mem_cons.mp member with rfl | member
        · have named : isNameStart d = true ∨ isNameRest d = true := by
            cases inside <;> simp_all
          constructor <;> rintro rfl <;> revert named <;> decide
        · exact ih accepted.2 d member

theorem splitClose_append {chars : List Char} (open_ : ∀ c ∈ chars, c ≠ '\x7d')
    (rest : List Char) : splitClose (chars ++ '\x7d' :: rest) = some (chars, rest) := by
  induction chars with
  | nil => simp [splitClose]
  | cons c chars ih =>
      have differ : c ≠ '\x7d' := open_ c (by simp)
      simp [splitClose, differ, ih (fun d member => open_ d (by simp [member]))]

theorem append_of_splitClose {chars name after : List Char}
    (h : splitClose chars = some (name, after)) : chars = name ++ '\x7d' :: after := by
  induction chars generalizing name with
  | nil => simp [splitClose] at h
  | cons c rest ih =>
      simp only [splitClose] at h
      split at h
      · rename_i closing
        simp only [Option.some.injEq, Prod.mk.injEq] at h
        obtain ⟨rfl, rfl⟩ := h
        rw [closing, List.nil_append]
      · simp only [Option.map_eq_some_iff, Prod.mk.injEq, Prod.exists] at h
        obtain ⟨inner, tail, found, rfl, rfl⟩ := h
        rw [ih found, List.cons_append]

/-- The written form of a piece. -/
def Piece.written : Piece → List Char
  | .char c => Segment.escapeChar c
  | .hole name => '\x7b' :: name.toList ++ ['\x7d']

theorem written_hole_append (name : String) (rest : List Char) :
    (Piece.hole name).written ++ rest = '\x7b' :: (name.toList ++ '\x7d' :: rest) := by
  simp [Piece.written]

/-- A piece is no placeholder, or one with a name. -/
def Piece.IsNamed : Piece → Prop
  | .char _ => True
  | .hole name => IsDottedName name.toList

@[simp] theorem Piece.isNamed_char (c : Char) : (Piece.char c).IsNamed := trivial

@[simp] theorem Piece.isNamed_hole (name : String) :
    (Piece.hole name).IsNamed ↔ IsDottedName name.toList := Iff.rfl

theorem pieces_char (offset : Nat) (c : Char) (rest : List Char) :
    ∃ width, pieces offset (Segment.escapeChar c ++ rest) =
      (pieces (offset + width) rest).map (.char c :: ·) := by
  by_cases opening : c = '\x7b'
  · subst opening
    exact ⟨2, by simp [Segment.escapeChar, pieces]⟩
  · by_cases closing : c = '\x7d'
    · subst closing
      exact ⟨2, by simp [Segment.escapeChar, pieces]⟩
    · exact ⟨c.utf8Size, by simp [Segment.escapeChar, pieces, opening, closing]⟩

/-- A name does not start with a brace, so its own brace is not taken for half of a pair. -/
theorem pieces_hole (offset : Nat) {name : String} (dotted : isName name = true)
    (rest : List Char) :
    pieces offset ('\x7b' :: (name.toList ++ '\x7d' :: rest)) =
      (pieces (offset + (Text.byteSize name.toList + 2)) rest).map (.hole name :: ·) := by
  have braceless := ne_brace_of_isDotted dotted
  have starts : ∀ after, name.toList ++ '\x7d' :: rest ≠ '\x7b' :: after := by
    intro after same
    cases start : name.toList with
    | nil => simp [start] at same
    | cons first others =>
        rw [start, List.cons_append, List.cons.injEq] at same
        exact (braceless first (by simp [start])).1 same.1
  have found := splitClose_append (fun c member => (braceless c member).2) rest
  rw [pieces.eq_3 _ _ starts]
  split
  · rename_i absent
    exact absurd (found.symm.trans absent) (by simp)
  · rename_i chars after present
    obtain ⟨rfl, rfl⟩ : name.toList = chars ∧ rest = after := by
      simpa using found.symm.trans present
    simp [String.ofList_toList, dotted]

/-- Reading gives back the pieces that were written. -/
theorem pieces_written (offset : Nat) {ps : List Piece} (named : ∀ p ∈ ps, p.IsNamed) :
    pieces offset (ps.flatMap Piece.written) = .ok ps := by
  induction ps generalizing offset with
  | nil => simp [pieces]
  | cons p ps ih =>
      have rest := fun offset => ih offset (fun q member => named q (by simp [member]))
      rw [List.flatMap_cons]
      cases p with
      | char c =>
          obtain ⟨width, step⟩ := pieces_char offset c (ps.flatMap Piece.written)
          rw [Piece.written, step, rest]
          rfl
      | hole name =>
          have dotted : isName name = true :=
            (isName_iff name).mpr (named (.hole name) (by simp))
          rw [written_hole_append, pieces_hole offset dotted, rest]
          rfl

/-- Writing gives back the text that was read. -/
theorem written_of_pieces {offset : Nat} {chars : List Char} {ps : List Piece}
    (accepted : pieces offset chars = .ok ps) :
    ps.flatMap Piece.written = chars ∧ ∀ p ∈ ps, p.IsNamed := by
  fun_induction pieces offset chars generalizing ps with
  | case1 =>
      obtain rfl : [] = ps := by simpa using accepted
      simp
  | case2 offset rest ih | case6 offset rest ih =>
      obtain ⟨ps, inner, rfl⟩ := Outcome.map_eq_ok_iff.mp accepted
      obtain ⟨written, named⟩ := ih inner
      simpa [Piece.written, Segment.escapeChar, written] using named
  | case3 | case5 | case7 => simp at accepted
  | case4 offset rest _ chars after found name dotted =>
      rename_i ih
      obtain ⟨ps, inner, rfl⟩ := Outcome.map_eq_ok_iff.mp accepted
      obtain ⟨written, named⟩ := ih inner
      constructor
      · rw [List.flatMap_cons, written_hole_append, written, append_of_splitClose found,
          String.toList_ofList]
      · simpa using ⟨(isName_iff _).mp dotted, named⟩
  | case8 offset c rest _ opening _ closing ih =>
      obtain ⟨ps, inner, rfl⟩ := Outcome.map_eq_ok_iff.mp accepted
      obtain ⟨written, named⟩ := ih inner
      have single : Segment.escapeChar c = [c] := by
        simp [Segment.escapeChar, show c ≠ '\x7b' from opening, show c ≠ '\x7d' from closing]
      simpa [Piece.written, single, written] using named

end Body

namespace Segment

open Body (Piece)

/-- A segment is a literal, or a placeholder with a dotted name. -/
def IsNamed : Segment → Prop
  | literal _ => True
  | placeholder name => IsDottedName name.toList

instance (segment : Segment) : Decidable segment.IsNamed :=
  match segment with
  | literal _ => .isTrue trivial
  | placeholder name => decidable_of_iff _ (Body.isName_iff name)

/-- Whether a segment is a literal. -/
def IsLiteral : Segment → Prop
  | literal _ => True
  | placeholder _ => False

@[simp] theorem isNamed_literal (text : String) : (literal text).IsNamed := trivial

@[simp] theorem isNamed_placeholder (name : String) :
    (placeholder name).IsNamed ↔ IsDottedName name.toList := Iff.rfl

@[simp] theorem isLiteral_literal (text : String) : (literal text).IsLiteral := trivial

@[simp] theorem not_isLiteral_placeholder (name : String) : ¬ (placeholder name).IsLiteral := id

/-- Segments in normal form: named, without empty literals, and with a
    placeholder between any two literals. -/
structure IsNormal (segments : List Segment) : Prop where
  named : ∀ segment ∈ segments, segment.IsNamed
  filled : literal "" ∉ segments
  apart : segments.IsChain fun left right => ¬ (left.IsLiteral ∧ right.IsLiteral)

theorem IsNormal.tail {segment : Segment} {rest : List Segment}
    (normal : IsNormal (segment :: rest)) : IsNormal rest where
  named other member := normal.named other (by simp [member])
  filled member := normal.filled (by simp [member])
  apart := normal.apart.tail

/-- The pieces of a segment. -/
def pieces : Segment → List Piece
  | literal text => text.toList.map .char
  | placeholder name => [.hole name]

theorem written_pieces (segment : Segment) :
    segment.pieces.flatMap Piece.written = segment.written := by
  cases segment with
  | literal text =>
      rw [pieces, List.flatMap_map]
      rfl
  | placeholder name => simp [pieces, written, Piece.written]

theorem isNamed_of_mem_pieces {segment : Segment} (named : segment.IsNamed) :
    ∀ p ∈ segment.pieces, p.IsNamed := by
  cases segment with
  | literal text => simp [pieces]
  | placeholder name => simpa [pieces] using named

end Segment

namespace Body

open Segment

theorem pieces_literalOf (chars : List Char) :
    (literalOf chars).flatMap Segment.pieces = chars.map .char := by
  cases chars <;> simp [literalOf, Segment.pieces]

/-- Grouping keeps the pieces. -/
theorem pieces_group (pending : List Char) (ps : List Piece) :
    (group pending ps).flatMap Segment.pieces = pending.reverse.map .char ++ ps := by
  induction ps generalizing pending with
  | nil => simp [group, pieces_literalOf]
  | cons p ps ih =>
      cases p with
      | char c => simp [group, ih]
      | hole name => simp [group, pieces_literalOf, ih, Segment.pieces]

theorem literalOf_eq_nil_or (chars : List Char) :
    literalOf chars = [] ∨ ∃ text, text ≠ "" ∧ literalOf chars = [.literal text] := by
  cases chars with
  | nil => exact .inl rfl
  | cons c rest => exact .inr ⟨String.ofList (c :: rest), by simp, rfl⟩

/-- Grouped pieces are in normal form. -/
theorem isNormal_group (pending : List Char) {ps : List Piece} (named : ∀ p ∈ ps, p.IsNamed) :
    IsNormal (group pending ps) := by
  induction ps generalizing pending with
  | nil =>
      rcases literalOf_eq_nil_or pending.reverse with none | ⟨text, filled, some⟩
      · rw [group, none]
        exact ⟨by simp, by simp, .nil⟩
      · rw [group, some]
        exact ⟨by simp, by simpa using filled.symm, .singleton _⟩
  | cons p ps ih =>
      have rest := fun pending => ih pending (fun q member => named q (by simp [member]))
      cases p with
      | char c => exact rest (c :: pending)
      | hole name =>
          have dotted : IsDottedName name.toList := named (.hole name) (by simp)
          obtain ⟨others, filled, apart⟩ := rest []
          rcases literalOf_eq_nil_or pending.reverse with none | ⟨text, notEmpty, some⟩
          · rw [group, none, List.nil_append]
            exact ⟨by simpa using ⟨dotted, others⟩, by simpa using filled,
              List.isChain_cons.mpr ⟨by simp, apart⟩⟩
          · rw [group, some, List.singleton_append]
            exact ⟨by simpa using ⟨dotted, others⟩, by simpa using ⟨notEmpty, filled⟩,
              List.isChain_cons_cons.mpr ⟨by simp, List.isChain_cons.mpr ⟨by simp, apart⟩⟩⟩

theorem group_chars (pending chars : List Char) (ps : List Piece) :
    group pending (chars.map .char ++ ps) = group (chars.reverse ++ pending) ps := by
  induction chars generalizing pending with
  | nil => rfl
  | cons c chars ih => simp [group, ih]

theorem literalOf_toList {text : String} (filled : text ≠ "") :
    literalOf text.toList = [.literal text] := by
  simp [literalOf, filled, String.ofList_toList]

/-- Segments in normal form are the one way to group their pieces. -/
theorem group_pieces {segments : List Segment} (normal : IsNormal segments) :
    group [] (segments.flatMap Segment.pieces) = segments := by
  induction segments with
  | nil => rfl
  | cons segment rest ih =>
      have tail := ih normal.tail
      cases segment with
      | placeholder name => simp [Segment.pieces, group, literalOf, tail]
      | literal text =>
          have filled : text ≠ "" := by
            rintro rfl
            exact normal.filled (by simp)
          rw [List.flatMap_cons, Segment.pieces, group_chars, List.append_nil]
          cases rest with
          | nil => simp [group, literalOf_toList filled]
          | cons next more =>
              cases next with
              | literal other =>
                  have apart := (List.isChain_cons_cons.mp normal.apart).1
                  exact absurd ⟨trivial, trivial⟩ apart
              | placeholder name =>
                  have others : group [] (more.flatMap Segment.pieces) = more := by
                    simpa [Segment.pieces, group, literalOf] using tail
                  simp [Segment.pieces, group, literalOf_toList filled, others]

end Body

namespace TemplateBody

open Body Segment

theorem toList_unparse (segments : List Segment) :
    (unparse segments).toList = (segments.flatMap Segment.pieces).flatMap Piece.written := by
  simp only [unparse, String.toList_ofList, List.flatMap_assoc, written_pieces]

/-- Segments with neighbouring literals joined. -/
def normalize (segments : List Segment) : TemplateBody :=
  ⟨group [] (segments.flatMap Segment.pieces)⟩

theorem hole_mem_pieces_iff (segments : List Segment) (name : String) :
    .hole name ∈ segments.flatMap Segment.pieces ↔ .placeholder name ∈ segments := by
  rw [List.mem_flatMap]
  constructor
  · rintro ⟨segment, member, isPiece⟩
    cases segment with
    | literal text => simp [Segment.pieces] at isPiece
    | placeholder other =>
        obtain rfl : name = other := by simpa [Segment.pieces] using isPiece
        exact member
  · intro member
    exact ⟨_, member, by simp [Segment.pieces]⟩

/-- Joining literals keeps the placeholders. -/
theorem placeholder_mem_normalize_iff (segments : List Segment) (name : String) :
    .placeholder name ∈ (normalize segments).segments ↔ .placeholder name ∈ segments := by
  rw [← hole_mem_pieces_iff, ← hole_mem_pieces_iff, normalize, pieces_group]
  simp

/-- Reading what was written gives the segments in normal form. -/
theorem parse_unparse {segments : List Segment} (named : ∀ s ∈ segments, s.IsNamed) :
    parse (unparse segments) = .ok (normalize segments) := by
  have pieceNames : ∀ p ∈ segments.flatMap Segment.pieces, p.IsNamed := by
    intro p member
    obtain ⟨segment, inside, isPiece⟩ := List.mem_flatMap.mp member
    exact isNamed_of_mem_pieces (named segment inside) p isPiece
  rw [parse, toList_unparse, pieces_written 0 pieceNames]
  rfl

/-- What is read is in normal form, and writing it gives the text back. -/
theorem unparse_of_parse {text : String} {body : TemplateBody} (accepted : parse text = .ok body) :
    IsNormal body.segments ∧ unparse body.segments = text := by
  obtain ⟨ps, read, rfl⟩ := Outcome.map_eq_ok_iff.mp accepted
  obtain ⟨written, named⟩ := written_of_pieces read
  refine ⟨isNormal_group [] named, String.toList_injective ?_⟩
  rw [toList_unparse, pieces_group]
  simpa using written

/-- Reading and writing are inverse to each other between the accepted texts and
    the segments in normal form, and a text is accepted when it is the written
    form of any segments with dotted names. -/
theorem parse_bijective :
    (∀ text, (∃ body, parse text = .ok body) ↔
      ∃ segments, (∀ segment ∈ segments, segment.IsNamed) ∧ unparse segments = text) ∧
    (∀ text body, parse text = .ok body →
      unparse body.segments = text ∧ IsNormal body.segments) ∧
    (∀ segments, IsNormal segments → parse (unparse segments) = .ok ⟨segments⟩) := by
  refine ⟨fun text => ⟨?_, ?_⟩, ?_, ?_⟩
  · rintro ⟨body, accepted⟩
    obtain ⟨normal, written⟩ := unparse_of_parse accepted
    exact ⟨body.segments, normal.named, written⟩
  · rintro ⟨segments, named, rfl⟩
    exact ⟨_, parse_unparse named⟩
  · intro text body accepted
    exact (unparse_of_parse accepted).symm
  · intro segments normal
    rw [parse_unparse normal.named, normalize, group_pieces normal]

/-- Doubled braces next to a placeholder are literals. -/
theorem parse_braced_placeholder : parse "\x7b\x7b\x7ba\x7d\x7d\x7d" =
    .ok ⟨[.literal "\x7b", .placeholder "a", .literal "\x7d"]⟩ := by
  have normal : IsNormal [.literal "\x7b", .placeholder "a", .literal "\x7d"] :=
    ⟨by decide, by decide, by simp⟩
  have written : unparse [.literal "\x7b", .placeholder "a", .literal "\x7d"] =
      "\x7b\x7b\x7ba\x7d\x7d\x7d" := by decide
  exact written ▸ parse_bijective.2.2 _ normal

end TemplateBody

end HlsEmit
