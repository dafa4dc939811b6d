import HlsEmit.Template.Params
import HlsEmit.Text.Position

/-! # Template bodies

A body is text with placeholders. In its written form a placeholder stands in
braces and a brace of the text is doubled. Reading a body splits it into pieces,
which are single characters and placeholders, and joins neighbouring characters
to literals; writing it back gives the same text.
-/

namespace HlsEmit

open Text (byteSize)

/-- A part of a template body. -/
inductive Segment where
  /-- Text that is copied. -/
  | literal (text : String)
  /-- A name whose value is filled in. -/
  | placeholder (name : String)
  deriving DecidableEq, Repr

namespace Segment

/-- A character with a brace doubled. -/
def escapeChar (c : Char) : List Char :=
  if c = '\x7b' ∨ c = '\x7d' then [c, c] else [c]

/-- The written form of a segment. -/
def written : Segment → List Char
  | literal text => text.toList.flatMap escapeChar
  | placeholder name => '\x7b' :: name.toList ++ ['\x7d']

/-- The value of a segment, or the name that has none. -/
def fill (params : Params) : Segment → Except String String
  | literal text => .ok text
  | placeholder name =>
      match params.find? name with
      | some value => .ok value
      | none => .error name

end Segment

/-- Why a text is no template body. Offsets count bytes. -/
inductive BodyError where
  /-- A closing brace stands alone. -/
  | single (offset : Nat)
  /-- A placeholder does not end. -/
  | unclosed (offset : Nat)
  /-- The text of a placeholder is no name. -/
  | invalidPlaceholder (name : String) (offset : Nat)
  deriving DecidableEq, Repr

/-- The reason in words. -/
def BodyError.message : BodyError → String
  | single offset => s!"single '\x7d' at byte {offset}"
  | unclosed offset => s!"unclosed '\x7b' at byte {offset}"
  | invalidPlaceholder name offset =>
      s!"invalid placeholder '\x7b{name}\x7d' at byte {offset}"

/-- The same reason for a text with `count` more bytes in front. -/
def BodyError.shift (count : Nat) : BodyError → BodyError
  | single offset => single (offset + count)
  | unclosed offset => unclosed (offset + count)
  | invalidPlaceholder name offset => invalidPlaceholder name (offset + count)

namespace Body

/-- Whether an identifier may start with the character. -/
def isNameStart (c : Char) : Bool := c.isAlpha || c = '_'

/-- Whether an identifier may go on with the character. -/
def isNameRest (c : Char) : Bool := c.isAlphanum || c = '_'

/-- Whether the characters form identifiers joined by single dots. The flag
    tells whether an identifier has begun. -/
def isDotted (inside : Bool) : List Char → Bool
  | [] => inside
  | c :: rest =>
      if c = '.' then inside && isDotted false rest
      else (if inside then isNameRest c else isNameStart c) && isDotted true rest

/-- Whether the text may name a placeholder. -/
def isName (name : String) : Bool := isDotted false name.toList

/-- A character of the text or a placeholder. -/
inductive Piece where
  /-- A character that is copied. -/
  | char (c : Char)
  /-- A name whose value is filled in. -/
  | hole (name : String)
  deriving DecidableEq, Repr

/-- The characters up to the next closing brace, and those after it. -/
def splitClose : List Char → Option (List Char × List Char)
  | [] => none
  | c :: rest =>
      if c = '\x7d' then some ([], rest)
      else (splitClose rest).map fun (name, after) => (c :: name, after)

theorem length_of_splitClose {chars name after : List Char}
    (h : splitClose chars = some (name, after)) : after.length < chars.length := by
  induction chars generalizing name with
  | nil => simp [splitClose] at h
  | cons c rest ih =>
      simp only [splitClose] at h
      split at h
      · simp only [Option.some.injEq, Prod.mk.injEq] at h
        simp [h.2]
      · simp only [Option.map_eq_some_iff, Prod.mk.injEq, Prod.exists] at h
        obtain ⟨inner, tail, found, _, rfl⟩ := h
        have shorter := ih found
        simp only [List.length_cons]
        omega

/-- The pieces of a text that starts at the given byte offset. -/
def pieces (offset : Nat) : List Char → Except BodyError (List Piece)
  | [] => .ok []
  | '\x7b' :: '\x7b' :: rest => (pieces (offset + 2) rest).map (.char '\x7b' :: ·)
  | '\x7b' :: rest =>
      match _h : splitClose rest with
      | none => .error (.unclosed offset)
      | some (chars, after) =>
          let name := String.ofList chars
          if isName name then
            (pieces (offset + (byteSize chars + 2)) after).map (.hole name :: ·)
          else .error (.invalidPlaceholder name offset)
  | '\x7d' :: '\x7d' :: rest => (pieces (offset + 2) rest).map (.char '\x7d' :: ·)
  | '\x7d' :: _ => .error (.single offset)
  | c :: rest => (pieces (offset + c.utf8Size) rest).map (.char c :: ·)
termination_by chars => chars.length
decreasing_by
  all_goals simp_wf
  all_goals first
    | omega
    | (have shorter := length_of_splitClose _h; omega)

/-- A literal of the given characters, or nothing if there are none. -/
def literalOf (chars : List Char) : List Segment :=
  if chars.isEmpty then [] else [.literal (String.ofList chars)]

/-- Join neighbouring characters. The characters of `pending` come before the
    pieces and are given from the last to the first. -/
def group (pending : List Char) : List Piece → List Segment
  | [] => literalOf pending.reverse
  | .char c :: rest => group (c :: pending) rest
  | .hole name :: rest => literalOf pending.reverse ++ .placeholder name :: group [] rest

end Body

/-- A body that has been read. -/
structure TemplateBody where
  segments : List Segment
  deriving DecidableEq, Repr

namespace TemplateBody

/-- Read a body. -/
def parse (text : String) : Except BodyError TemplateBody :=
  (Body.pieces 0 text.toList).map fun pieces => ⟨Body.group [] pieces⟩

/-- The written form of segments. -/
def unparse (segments : List Segment) : String :=
  String.ofList (segments.flatMap Segment.written)

/-- The names of the placeholders, in order of first appearance. -/
def placeholders (body : TemplateBody) : List String :=
  (body.segments.filterMap fun
    | .placeholder name => some name
    | .literal _ => none).eraseDups

/-- Fill in every placeholder, or give the name of the first that has no value. -/
def render (body : TemplateBody) (params : Params) : Except String String :=
  (body.segments.mapM (Segment.fill params)).map String.join

end TemplateBody

end HlsEmit
