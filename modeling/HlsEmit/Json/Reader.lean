import HlsEmit.Json.Fault

/-! # Reading JSON

Readers go through a text character by character; their state is the rest of the
text. This file has what every reader uses: looking ahead, literals, the commas
and brackets of lists and objects, and loops.
-/

namespace HlsEmit.Json

open Text (byteSize)

/-- A reader of the rest of a text. -/
abbrev Reader := StateT (List Char) (Except Fault)

namespace Reader

variable {α σ : Type}

/-- A fault before the next character. -/
def failHere (cause : Cause) : Reader α := do
  throw ⟨cause, byteSize (← get)⟩

/-- A fault one byte further on, or at the end of the text. -/
def failNext (cause : Cause) : Reader α := do
  throw ⟨cause, byteSize (← get) - 1⟩

/-- Whether the character may stand between tokens. -/
def isSpace (c : Char) : Bool := c = ' ' || c = '\n' || c = '\t' || c = '\r'

/-- Pass over one character. -/
def bump : Reader Unit := modify List.tail

/-- Pass over space. -/
def skipSpace : Reader Unit := modify (List.dropWhile isSpace)

/-- The next character, which stays in place. -/
def peek? : Reader (Option Char) := return (← get).head?

/-- The next character after space. -/
def token? : Reader (Option Char) := do skipSpace; peek?

/-- The letters of a literal after its first one. -/
def ident : List Char → Reader Unit
  | [] => pure ()
  | expected :: rest => do
      match ← peek? with
      | none => failHere .endInValue
      | some c =>
          if c = expected then do bump; ident rest
          else failNext .expectedIdent

/-- The outcome of one round of a loop. -/
inductive Round (σ : Type) where
  | more (state : σ)
  | done (state : σ)

/-- Run at most `fuel` rounds. -/
def loop (round : σ → Reader (Round σ)) : Nat → σ → Reader σ
  | 0, state => pure state
  | fuel + 1, state => do
      match ← round state with
      | .more state => loop round fuel state
      | .done state => pure state

/-- Run rounds until one is the last. Every other round has to read a character,
    so there are no more of them than characters. -/
def iterate (round : σ → Reader (Round σ)) (state : σ) : Reader σ := do
  loop round ((← get).length + 1) state

/-- Whether a list goes on: at its first element, or after a comma. -/
def nextElement (first : Bool) : Reader Bool := do
  match ← token? with
  | none => failNext .endInList
  | some ']' => pure false
  | some c =>
      if first then pure true
      else if c = ',' then do
        bump
        match ← token? with
        | none => failNext .endInValue
        | some ']' => failNext .trailingComma
        | some _ => pure true
      else failNext .expectedListEnd

/-- Whether an object goes on: at its first key, or after a comma. The key itself
    is still to be read. -/
def nextKey (first : Bool) : Reader Bool := do
  match ← token? with
  | none => failNext .endInObject
  | some '\x7d' => pure false
  | some c =>
      if first then
        if c = '"' then pure true else failNext .keyNotString
      else if c = ',' then do
        bump
        match ← token? with
        | none => failNext .endInValue
        | some '"' => pure true
        | some '\x7d' => failNext .trailingComma
        | some _ => failNext .keyNotString
      else failNext .expectedObjectEnd

/-- The colon after a key. -/
def colon : Reader Unit := do
  match ← token? with
  | none => failNext .endInObject
  | some ':' => bump
  | some _ => failNext .expectedColon

/-- The two kinds of brackets. -/
inductive Bracket where
  | list
  | object
  deriving DecidableEq, Repr

/-- Pass over a closing bracket. -/
def close : Bracket → Reader Unit
  | .list => do
      match ← token? with
      | none => failNext .endInList
      | some ']' => bump
      | some ',' => do
          bump
          match ← token? with
          | some ']' => failNext .trailingComma
          | _ => failNext .trailingCharacters
      | some _ => failNext .trailingCharacters
  | .object => do
      match ← token? with
      | none => failNext .endInObject
      | some '\x7d' => bump
      | some ',' => failNext .trailingComma
      | some _ => failNext .trailingCharacters

/-- How far `close` gets, whether it succeeds or not. -/
def afterClose (bracket : Bracket) (rest : List Char) : List Char :=
  let rest := rest.dropWhile isSpace
  match bracket, rest with
  | .list, ']' :: after => after
  | .list, ',' :: after => after.dropWhile isSpace
  | .object, '\x7d' :: after => after
  | _, _ => rest

/-- Contents between brackets, the opening one being next. A rejection of the
    contents is located where the attempt to close the bracket ends. -/
def within (bracket : Bracket) (contents : Reader (Except Rejection α)) : Reader α := do
  bump
  match ← contents with
  | .ok value => do close bracket; pure value
  | .error reason => throw ⟨.rejected reason, byteSize (afterClose bracket (← get))⟩

end Reader

end HlsEmit.Json
