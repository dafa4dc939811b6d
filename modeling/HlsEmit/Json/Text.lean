import HlsEmit.Json.Reader

/-! # JSON strings

A string is read after its opening quotation mark. Escapes of four hexadecimal
digits stand for UTF-16 units, so a character beyond the first plane is a pair of
surrogates.
-/

namespace HlsEmit.Json

open Text (byteSize)

namespace Quote

/-- The value of a hexadecimal digit. -/
def hexDigit? (c : Char) : Option Nat :=
  if c.isDigit then some (c.toNat - '0'.toNat)
  else if 'a' ≤ c ∧ c ≤ 'f' then some (c.toNat - 'a'.toNat + 10)
  else if 'A' ≤ c ∧ c ≤ 'F' then some (c.toNat - 'A'.toNat + 10)
  else none

/-- Four hexadecimal digits, and the rest. -/
def hexUnit (rest : List Char) : Except Fault (Nat × List Char) :=
  let value? : Option (Nat × List Char) :=
    match rest with
    | a :: b :: c :: d :: after => do
        return (((← hexDigit? a) * 16 + (← hexDigit? b)) * 256 + (← hexDigit? c) * 16
          + (← hexDigit? d), after)
    | _ => none
  match value? with
  | some result => .ok result
  | none =>
      if byteSize rest < 4 then .error ⟨.endInString, 0⟩
      else .error ⟨.invalidEscape, byteSize rest - 4⟩

/-- The second half of a pair of surrogates whose first half is `high`. -/
def lowSurrogate (high : Nat) : List Char → Except Fault (Char × List Char)
  | [] => .error ⟨.endInString, 0⟩
  | '\\' :: [] => .error ⟨.endInString, 0⟩
  | '\\' :: 'u' :: rest =>
      match hexUnit rest with
      | .error fault => .error fault
      | .ok (low, after) =>
          if 0xDC00 ≤ low ∧ low ≤ 0xDFFF then
            .ok (Char.ofNat ((high - 0xD800) * 0x400 + (low - 0xDC00) + 0x10000), after)
          else .error ⟨.loneSurrogate, byteSize after⟩
  | '\\' :: rest => .error ⟨.unexpectedHexEnd, byteSize rest - 1⟩
  | rest => .error ⟨.unexpectedHexEnd, byteSize rest - 1⟩

/-- The character of an escape in hexadecimal digits. -/
def unicode (rest : List Char) : Except Fault (Char × List Char) :=
  match hexUnit rest with
  | .error fault => .error fault
  | .ok (unit, after) =>
      if 0xDC00 ≤ unit ∧ unit ≤ 0xDFFF then .error ⟨.loneSurrogate, byteSize after⟩
      else if 0xD800 ≤ unit ∧ unit ≤ 0xDBFF then lowSurrogate unit after
      else .ok (Char.ofNat unit, after)

/-- The character that a single letter after a backslash stands for. -/
def shortEscape? : Char → Option Char
  | '"' => some '"'
  | '\\' => some '\\'
  | '/' => some '/'
  | 'b' => some '\x08'
  | 'f' => some '\x0c'
  | 'n' => some '\n'
  | 'r' => some '\r'
  | 't' => some '\t'
  | _ => none

/-- The character of an escape after its backslash. -/
def escape : List Char → Except Fault (Char × List Char)
  | [] => .error ⟨.endInString, 0⟩
  | 'u' :: rest => unicode rest
  | c :: rest =>
      match shortEscape? c with
      | some value => .ok (value, rest)
      | none => .error ⟨.invalidEscape, byteSize (c :: rest) - 1⟩

theorem length_of_hexUnit {rest after : List Char} {unit : Nat}
    (h : hexUnit rest = .ok (unit, after)) : after.length < rest.length := by
  simp only [hexUnit] at h
  split at h
  · rename_i result found
    split at found
    · simp only [bind, Option.bind_eq_some_iff, pure, Option.some.injEq] at found
      obtain ⟨_, _, _, _, _, _, _, _, rfl⟩ := found
      simp only [Except.ok.injEq, Prod.mk.injEq] at h
      obtain ⟨_, rfl⟩ := h
      simp only [List.length_cons]
      omega
    · simp at found
  · split at h <;> simp at h

theorem length_of_lowSurrogate {high : Nat} {rest after : List Char} {c : Char}
    (h : lowSurrogate high rest = .ok (c, after)) : after.length < rest.length := by
  unfold lowSurrogate at h
  split at h <;> try simp at h
  split at h
  · simp at h
  · rename_i low tail found
    have shorter := length_of_hexUnit found
    split at h
    · simp only [Except.ok.injEq, Prod.mk.injEq] at h
      obtain ⟨_, rfl⟩ := h
      simp only [List.length_cons]
      omega
    · simp at h

theorem length_of_unicode {rest after : List Char} {c : Char}
    (h : unicode rest = .ok (c, after)) : after.length < rest.length := by
  simp only [unicode] at h
  split at h
  · simp at h
  · rename_i unit tail found
    have shorter := length_of_hexUnit found
    split at h
    · simp at h
    · split at h
      · have further := length_of_lowSurrogate h
        omega
      · simp only [Except.ok.injEq, Prod.mk.injEq] at h
        obtain ⟨_, rfl⟩ := h
        exact shorter

theorem length_of_escape {rest after : List Char} {c : Char}
    (h : escape rest = .ok (c, after)) : after.length < rest.length := by
  unfold escape at h
  split at h
  · simp at h
  · have shorter := length_of_unicode h
    simp only [List.length_cons]
    omega
  · split at h
    · simp only [Except.ok.injEq, Prod.mk.injEq] at h
      obtain ⟨_, rfl⟩ := h
      simp
    · simp at h

/-- The characters up to the closing quotation mark, `done` being those before
    them from the last to the first, and the rest of the text. -/
def contents (done : List Char) : List Char → Except Fault (List Char × List Char)
  | [] => .error ⟨.endInString, 0⟩
  | '"' :: rest => .ok (done.reverse, rest)
  | '\\' :: rest =>
      match _h : escape rest with
      | .error fault => .error fault
      | .ok (c, after) => contents (c :: done) after
  | c :: rest =>
      if c.toNat < 0x20 then .error ⟨.controlCharacter, byteSize rest⟩
      else contents (c :: done) rest
termination_by rest => rest.length
decreasing_by
  all_goals simp_wf
  all_goals first
    | omega
    | (have shorter := length_of_escape _h; omega)

/-- Pass over an escape after its backslash, without looking at what it stands
    for. -/
def skipEscape : List Char → Except Fault (List Char)
  | [] => .error ⟨.endInString, 0⟩
  | 'u' :: rest => (hexUnit rest).map (·.2)
  | c :: rest =>
      match shortEscape? c with
      | some _ => .ok rest
      | none => .error ⟨.invalidEscape, byteSize (c :: rest) - 1⟩

theorem length_of_skipEscape {rest after : List Char} (h : skipEscape rest = .ok after) :
    after.length < rest.length := by
  unfold skipEscape at h
  split at h
  · simp at h
  · rename_i tail
    cases found : hexUnit tail with
    | error => simp [found, Except.map] at h
    | ok result =>
        have shorter := length_of_hexUnit found
        simp only [found, Except.map, Except.ok.injEq] at h
        subst h
        simp only [List.length_cons]
        omega
  · split at h
    · simp only [Except.ok.injEq] at h
      subst h
      simp
    · simp at h

/-- The text after the closing quotation mark. -/
def skip : List Char → Except Fault (List Char)
  | [] => .error ⟨.endInString, 0⟩
  | '"' :: rest => .ok rest
  | '\\' :: rest =>
      match _h : skipEscape rest with
      | .error fault => .error fault
      | .ok after => skip after
  | c :: rest =>
      if c.toNat < 0x20 then .error ⟨.controlCharacter, byteSize (c :: rest)⟩
      else skip rest
termination_by rest => rest.length
decreasing_by
  all_goals simp_wf
  all_goals first
    | omega
    | (have shorter := length_of_skipEscape _h; omega)

end Quote

namespace Reader

/-- A string whose opening quotation mark is next. -/
def text : Reader String := fun rest =>
  (Quote.contents [] rest.tail).map fun (chars, after) => (String.ofList chars, after)

/-- Pass over a string whose opening quotation mark is next. -/
def skipText : Reader Unit := fun rest =>
  (Quote.skip rest.tail).map fun after => ((), after)

end Reader

end HlsEmit.Json
