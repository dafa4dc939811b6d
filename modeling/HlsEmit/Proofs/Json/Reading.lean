import HlsEmit.Json.Value
import HlsEmit.Proofs.Json.Tokens
import Mathlib

/-! # Reading what is written

A reader decodes a value as `a` if it gets `a` from every written form of the value,
wherever it stands. Each reader of a type decodes the values that stand for elements of
the type, however they are spelled and spaced.
-/

namespace HlsEmit.Json

open Reader

variable {α β σ : Type}

/-- Every written form of the value is read as `a`, after space and up to a boundary. -/
def Decodes (reader : Reader α) (value : Value) (a : α) : Prop :=
  ∀ ⦃text space rest : List Char⦄, Written value text → IsSpace space → IsBoundary rest →
    reader.run (space ++ (text ++ rest)) = .ok (a, rest)

theorem isBoundary_cons_of_isSpace {space rest : List Char} (isSpace : IsSpace space)
    (boundary : IsBoundary rest) : IsBoundary (space ++ rest) := by
  cases space with
  | nil => exact boundary
  | cons c space =>
      rintro _ ⟨⟩
      exact .inl (isSpace_eq_true_iff.mpr (isSpace c List.mem_cons_self))

theorem Reader.run_bind_of_ok {reader : Reader α} {next : α → Reader β} {text rest : List Char}
    {a : α} (read : reader.run text = .ok (a, rest)) :
    (reader >>= next).run text = (next a).run rest := by
  rw [StateT.run_bind, read]
  rfl

theorem Reader.run_map_of_ok {reader : Reader α} {f : α → β} {text rest : List Char} {a : α}
    (read : reader.run text = .ok (a, rest)) : (f <$> reader).run text = .ok (f a, rest) := by
  rw [StateT.run_map, read]
  rfl

variable {space : List Char}

theorem dropWhile_isSpace (isSpace : IsSpace space) (rest : List Char) :
    (space ++ rest).dropWhile Reader.isSpace = rest.dropWhile Reader.isSpace :=
  List.dropWhile_append_of_pos fun c inside => isSpace_eq_true_iff.mpr (isSpace c inside)

theorem Reader.run_token?_bind (isSpace : IsSpace space) {c : Char}
    (solid : Reader.isSpace c = false) {next : Option Char → Reader β} (rest : List Char) :
    (token? >>= next).run (space ++ c :: rest) = (next (some c)).run (c :: rest) := by
  have passed : skipSpace.run (space ++ c :: rest) = .ok ((), c :: rest) := by
    change Except.ok ((), (space ++ c :: rest).dropWhile Reader.isSpace) = _
    rw [dropWhile_isSpace isSpace, List.dropWhile_cons_of_neg (by simp [solid])]
  rw [token?, bind_assoc, run_bind_of_ok passed]
  rfl

theorem Reader.run_token?_quotes (isSpace : IsSpace space) {text : String} {quoted : List Char}
    (quotes : Quotes text quoted) {next : Option Char → Reader β} (rest : List Char) :
    (token? >>= next).run (space ++ (quoted ++ rest)) = (next (some '"')).run (quoted ++ rest) := by
  obtain ⟨tail, rfl⟩ := quotes.exists_cons
  exact run_token?_bind isSpace (by decide) _

theorem Reader.run_token?_end (isSpace : IsSpace space) : token?.run space = .ok (none, []) := by
  have passed : skipSpace.run space = .ok ((), []) := by
    change Except.ok ((), space.dropWhile Reader.isSpace) = _
    rw [List.dropWhile_eq_nil_iff.mpr fun c inside => isSpace_eq_true_iff.mpr (isSpace c inside)]
  rw [token?, run_bind_of_ok passed]
  rfl

theorem Reader.run_bump_bind {next : Unit → Reader β} (c : Char) (rest : List Char) :
    (bump >>= next).run (c :: rest) = (next ()).run rest :=
  run_bind_of_ok rfl

/-- An integer begins with its sign or a digit. -/
theorem exists_cons_toString (value : Int) :
    ∃ c tail, (toString value).toList = c :: tail ∧ (c = '-' || c.isDigit) = true := by
  cases value with
  | ofNat value =>
      obtain ⟨c, tail, digits, isDigit⟩ := Number.exists_cons_toDigits value
      exact ⟨c, tail, Nat.toList_repr.trans digits, by simp [isDigit c List.mem_cons_self]⟩
  | negSucc value => exact ⟨'-', _, String.toList_append .., rfl⟩

theorem not_isSpace_of_numeric {c : Char} (numeric : (c = '-' || c.isDigit) = true) :
    Reader.isSpace c = false ∧ c ≠ ']' := by
  constructor
  · by_contra space
    rcases isSpace_eq_true_iff.mp (by simpa using space) with rfl | rfl | rfl | rfl <;>
      simp at numeric
  · rintro rfl
    simp at numeric

theorem Written.exists_cons {value : Value} {text : List Char} (written : Written value text) :
    ∃ c tail, text = c :: tail ∧ Reader.isSpace c = false ∧ c ≠ ']' := by
  cases written with
  | null => exact ⟨'n', _, rfl, by decide⟩
  | bool value => cases value <;> exact ⟨_, _, rfl, by decide⟩
  | integer value =>
      obtain ⟨c, tail, same, numeric⟩ := exists_cons_toString value
      exact ⟨c, tail, same, not_isSpace_of_numeric numeric⟩
  | text quotes =>
      obtain ⟨tail, rfl⟩ := quotes.exists_cons
      exact ⟨'"', tail, rfl, by decide⟩
  | list => exact ⟨'[', _, rfl, by decide⟩
  | object => exact ⟨'\x7b', _, rfl, by decide⟩

/-- Only null begins as null does. -/
theorem Written.eq_null {value : Value} {tail : List Char} (written : Written value ('n' :: tail)) :
    value = .null := by
  generalize same : 'n' :: tail = text at written
  cases written with
  | null => rfl
  | bool value => cases value <;> cases same
  | integer value =>
      obtain ⟨c, _, digits, numeric⟩ := exists_cons_toString value
      obtain ⟨rfl, -⟩ := List.cons.inj (same.trans digits)
      cases numeric
  | text quotes =>
      obtain ⟨_, rfl⟩ := quotes.exists_cons
      cases same
  | list => cases same
  | object => cases same

variable {first : Bool} {lead rest : List Char}

theorem run_nextElement_item {value : Value} {written : List Char} (leads : Leads first lead)
    (writes : Written value written) :
    (nextElement first).run (lead ++ (written ++ rest)) = .ok (true, written ++ rest) := by
  obtain ⟨c, tail, rfl, solid, notCloser⟩ := writes.exists_cons
  rw [List.cons_append, nextElement]
  cases leads with
  | first isSpace =>
      rw [run_token?_bind isSpace solid]
      split
      · contradiction
      · rename_i same
        exact absurd (Option.some.inj same) notCloser
      · rfl
  | @comma before space isBefore isSpace =>
      rw [List.append_assoc, List.cons_append, run_token?_bind isBefore (by decide)]
      change (bump >>= _).run (',' :: (space ++ c :: (tail ++ rest))) = _
      rw [run_bump_bind, run_token?_bind isSpace solid]
      split
      · contradiction
      · rename_i same
        exact absurd (Option.some.inj same) notCloser
      · rfl

theorem run_nextElement_close (isSpace : IsSpace space) :
    (nextElement first).run (space ++ ']' :: rest) = .ok (false, ']' :: rest) := by
  rw [nextElement, run_token?_bind isSpace (by decide)]
  rfl

theorem run_nextKey_item {key : String} {quoted : List Char} (leads : Leads first lead)
    (quotes : Quotes key quoted) :
    (nextKey first).run (lead ++ (quoted ++ rest)) = .ok (true, quoted ++ rest) := by
  rw [nextKey]
  cases leads with
  | first isSpace =>
      rw [run_token?_quotes isSpace quotes]
      rfl
  | @comma before space isBefore isSpace =>
      rw [List.append_assoc, List.cons_append, run_token?_bind isBefore (by decide)]
      change (bump >>= _).run (',' :: (space ++ (quoted ++ rest))) = _
      rw [run_bump_bind, run_token?_quotes isSpace quotes]
      rfl

theorem run_nextKey_close (isSpace : IsSpace space) :
    (nextKey first).run (space ++ '\x7d' :: rest) = .ok (false, '\x7d' :: rest) := by
  rw [nextKey, run_token?_bind isSpace (by decide)]
  rfl

theorem run_colon (isSpace : IsSpace space) :
    colon.run (space ++ ':' :: rest) = .ok ((), rest) := by
  rw [colon, run_token?_bind isSpace (by decide)]
  rfl

theorem run_within {bracket : Bracket} {contents : Reader (Except Rejection α)}
    {opener : Char} {text : List Char} {a : α}
    (read : contents.run text = .ok (.ok a, bracket.closer :: rest)) :
    (within bracket contents).run (opener :: text) = .ok (a, rest) := by
  have closes : (close bracket).run (bracket.closer :: rest) = .ok ((), rest) := by
    rw [← List.nil_append (bracket.closer :: rest)]
    cases bracket with
    | list =>
        rw [close, Bracket.closer, run_token?_bind isSpace_nil (by decide)]
        rfl
    | object =>
        rw [close, Bracket.closer, run_token?_bind isSpace_nil (by decide)]
        rfl
  rw [within, run_bump_bind, run_bind_of_ok read]
  exact run_bind_of_ok closes

variable {Item : α → List Char → Prop} {items : List α} {text : List Char}

theorem Items.isBoundary {bracket : Bracket} (written : Items Item bracket.closer false items text)
    (rest : List Char) : IsBoundary (text ++ rest) := by
  cases written with
  | close isSpace =>
      rw [List.append_assoc]
      apply isBoundary_cons_of_isSpace isSpace
      rintro _ ⟨⟩
      cases bracket <;> decide
  | item leads =>
      cases leads with
      | comma before =>
          rw [List.append_assoc, List.append_assoc]
          apply isBoundary_cons_of_isSpace before
          rintro _ ⟨⟩
          exact .inr (.inl rfl)

/-- Between two items stands a comma, and the closing bracket after the last one. -/
theorem Items.length_le {closer : Char} (written : Items Item closer first items text) :
    items.length + (if first then 0 else 1) ≤ text.length := by
  induction written with
  | close => split <;> simp
  | item leads _ _ ih =>
      cases leads with
      | first => simp_all; omega
      | comma => simp_all; omega

/-- A loop reads the items one by one. `Holds` is the invariant, for the items that are left. -/
theorem run_iterate (bracket : Bracket) (Holds : Bool → List α → σ → Prop)
    {round : σ → Reader (Round σ)} {next : σ → Reader β} {b : β}
    (more : ∀ {first a items state lead written rest}, Holds first (a :: items) state →
      Leads first lead → Item a written → IsBoundary rest →
      ∃ later, (round state).run (lead ++ (written ++ rest)) = .ok (.more later, rest) ∧
        Holds false items later)
    (done : ∀ {first state space}, Holds first [] state → IsSpace space →
      ∃ last, (round state).run (space ++ bracket.closer :: rest) =
          .ok (.done last, bracket.closer :: rest) ∧
        (next last).run (bracket.closer :: rest) = .ok (b, bracket.closer :: rest))
    (written : Items Item bracket.closer first items text) {state : σ}
    (holds : Holds first items state) :
    (iterate round state >>= next).run (text ++ rest) = .ok (b, bracket.closer :: rest) := by
  have rounds : ∀ fuel, items.length < fuel →
      (loop round fuel state >>= next).run (text ++ rest) = .ok (b, bracket.closer :: rest) := by
    induction written generalizing state with
    | close isSpace =>
        rintro (_ | fuel) enough
        · simp at enough
        · obtain ⟨last, read, finish⟩ := done holds isSpace
          rw [loop, List.append_assoc, List.singleton_append, bind_assoc, run_bind_of_ok read]
          exact finish
    | item leads writes others ih =>
        rintro (_ | fuel) enough
        · simp at enough
        · obtain ⟨later, read, goesOn⟩ := more holds leads writes (others.isBoundary rest)
          rw [loop, List.append_assoc, List.append_assoc, bind_assoc, run_bind_of_ok read]
          exact ih goesOn fuel (by simpa using enough)
  apply rounds
  have bound := written.length_le
  rw [List.length_append]
  omega

theorem run_iterate_of_done {round : σ → Reader (Round σ)} {state last : σ} {text : List Char}
    (read : (round state).run text = .ok (.done last, rest)) :
    (iterate round state).run text = .ok (last, rest) := by
  change (loop round (text.length + 1) state).run text = _
  rw [loop, run_bind_of_ok read]
  rfl

theorem decodes_string (value : String) : Decodes string (.text value) value := by
  intro text space rest written isSpace _
  cases written with
  | text quotes =>
      rw [string, run_token?_quotes isSpace quotes]
      exact run_text quotes rest

theorem decodes_skipValue (value : String) : Decodes skipValue (.text value) () := by
  intro text space rest written isSpace _
  cases written with
  | text quotes =>
      have start : skipStart.run (space ++ (text ++ rest)) = .ok (none, rest) := by
        rw [skipStart, run_token?_quotes isSpace quotes]
        exact (run_bind_of_ok (run_skipText quotes rest)).trans rfl
      exact run_bind_of_ok (run_iterate_of_done (run_bind_of_ok start))

theorem decodes_choice {names : List String} {ofName? : String → Option α} {name : String} {a : α}
    (named : ofName? name = some a) : Decodes (choice names ofName?) (.text name) a := by
  intro text space rest written isSpace _
  cases written with
  | text quotes =>
      rw [choice, run_token?_quotes isSpace quotes]
      refine (run_bind_of_ok (run_text quotes rest)).trans ?_
      rw [variant, named]
      rfl

theorem decodes_optional_null (item : Reader α) : Decodes (Reader.optional item) .null none := by
  intro text space rest written isSpace _
  cases written with
  | null =>
      change (Reader.optional item).run (space ++ 'n' :: ('u' :: 'l' :: 'l' :: rest)) = _
      rw [Reader.optional, run_token?_bind isSpace (by decide)]
      rfl

theorem decodes_optional {item : Reader α} {value : Value} {a : α} (decodes : Decodes item value a)
    (given : value ≠ .null) : Decodes (Reader.optional item) value (some a) := by
  intro text space rest written isSpace boundary
  have read := decodes written isSpace_nil boundary
  obtain ⟨c, tail, rfl, solid, -⟩ := written.exists_cons
  rw [Reader.optional, List.cons_append, run_token?_bind isSpace solid]
  split
  · rename_i same
    obtain rfl := Option.some.inj same
    exact absurd (written.eq_null) given
  · exact run_map_of_ok read

theorem decodes_unsigned32 (value : UInt32) :
    Decodes unsigned32 (.integer value.toNat) value := by
  intro text space rest written isSpace boundary
  cases written with
  | integer =>
      have bound : value.toNat < Nat.pow 2 32 := value.toNat_lt
      have greatest : (value.toNat : Int) < Nat.pow 2 64 := by
        have wider : Nat.pow 2 32 ≤ Nat.pow 2 64 := by decide
        omega
      have read : number.run ((toString (value.toNat : Int)).toList ++ rest) =
          .ok (.natural value.toNat, rest) :=
        Number.read_toString (by omega) greatest boundary
      obtain ⟨c, tail, same, numeric⟩ := exists_cons_toString value.toNat
      rw [same] at read ⊢
      rw [unsigned32, List.cons_append,
        run_token?_bind isSpace (not_isSpace_of_numeric numeric).1]
      change (if _ then _ else _ : Reader UInt32).run _ = _
      rw [if_pos numeric]
      refine (run_bind_of_ok read).trans ?_
      change (if _ then _ else _ : Reader UInt32).run _ = _
      rw [if_pos bound, UInt32.ofNat_toNat]
      rfl

/-- A level more or less makes no difference to scalars. -/
theorem exists_value_eq (levels : Nat) : ∃ nested, value levels = scalarOr nested := by
  cases levels with
  | zero => exact ⟨_, rfl⟩
  | succ levels => exact ⟨_, by rw [value]⟩

theorem run_value (levels : Nat) {scalar : Scalar} {text : List Char}
    (read : ∀ nested, (scalarOr nested).run text = .ok (scalar, rest)) :
    (value levels).run text = .ok (scalar, rest) := by
  obtain ⟨nested, same⟩ := exists_value_eq levels
  rw [same]
  exact read nested

theorem decodes_attribute_bool (value : Bool) :
    Decodes attributeValue (.bool value) (.ok (.bool value)) := by
  intro text space rest written isSpace _
  cases written with
  | bool =>
      have read : ∀ nested, (scalarOr nested).run (space ++ ((toString value).toList ++ rest)) =
          .ok (.bool value, rest) := by
        intro nested
        cases value with
        | true =>
            change (scalarOr nested).run (space ++ 't' :: ('r' :: 'u' :: 'e' :: rest)) = _
            rw [scalarOr, run_token?_bind isSpace (by decide)]
            rfl
        | false =>
            change (scalarOr nested).run (space ++ 'f' :: ('a' :: 'l' :: 's' :: 'e' :: rest)) = _
            rw [scalarOr, run_token?_bind isSpace (by decide)]
            rfl
      exact run_bind_of_ok (run_value attributeLevels read)

theorem decodes_attribute_text (value : String) :
    Decodes attributeValue (.text value) (.ok (.text value)) := by
  intro text space rest written isSpace _
  cases written with
  | text quotes =>
      have read : ∀ nested, (scalarOr nested).run (space ++ (text ++ rest)) =
          .ok (.text value, rest) := by
        intro nested
        rw [scalarOr, run_token?_quotes isSpace quotes]
        exact run_bind_of_ok (run_text quotes rest)
      exact run_bind_of_ok (run_value attributeLevels read)

/-- None of the characters before the last case of a scalar begins a number. -/
theorem run_scalarOr_of_numeric (nested : Bracket → Reader Unit) {c : Char} {tail : List Char}
    (numeric : (c = '-' || c.isDigit) = true) (isSpace : IsSpace space) :
    (scalarOr nested).run (space ++ c :: tail) =
      (Number.read (c :: tail)).map fun (number, rest) => (.number number, rest) := by
  rw [scalarOr, run_token?_bind isSpace (not_isSpace_of_numeric numeric).1]
  split <;> rename_i same <;> cases same <;> try cases numeric
  rw [if_pos numeric, StateT.run_bind]
  change (Number.read (c :: tail) >>= _) = _
  cases Number.read (c :: tail) <;> rfl

theorem decodes_attribute_int (value : Int64) :
    Decodes attributeValue (.integer value.toInt) (.ok (.int value)) := by
  intro text space rest written isSpace boundary
  have least : -(Nat.pow 2 63 : Int) ≤ value.toInt := value.le_toInt
  have greatest : value.toInt < Nat.pow 2 63 := value.toInt_lt
  have back : Int64.ofInt value.toInt = value := Int64.ofInt_toInt value
  cases written with
  | integer =>
      obtain ⟨c, tail, digits, numeric⟩ := exists_cons_toString value.toInt
      have number : Number.read (c :: (tail ++ rest)) = .ok (.ofInt value.toInt, rest) := by
        rw [← List.cons_append, ← digits]
        exact Number.read_toString least (greatest.trans (by decide)) boundary
      have scalar : ∀ nested, (scalarOr nested).run (space ++ c :: (tail ++ rest)) =
          .ok (.number (.ofInt value.toInt), rest) := by
        intro nested
        rw [run_scalarOr_of_numeric nested numeric isSpace, number]
        rfl
      rw [attributeValue, digits, List.cons_append,
        run_bind_of_ok (run_value attributeLevels scalar)]
      cases integer : value.toInt with
      | ofNat magnitude =>
          rw [integer] at greatest back
          have bound : magnitude < Nat.pow 2 63 := Int.ofNat_lt.mp greatest
          have same : Int64.ofNat magnitude = value := Int64.ofInt_eq_ofNat.symm.trans back
          rw [← same]
          change Except.ok (Except.ok (if _ then _ else _), rest) = _
          rw [if_pos bound]
      | negSucc magnitude =>
          rw [integer] at back
          exact congrArg (fun value => Except.ok (Except.ok (Attribute.int value), rest)) back

variable {item : Reader α}

/-- The elements that are read, the last one first, with those that are left make up `as`. -/
inductive ElementsLeft (item : Reader α) (as : List α) :
    Bool → List Value → Bool × List α → Prop where
  | intro {first : Bool} {values : List Value} {done later : List α} :
      List.Forall₂ (Decodes item) values later → done.reverse ++ later = as →
      ElementsLeft item as first values (first, done)

theorem decodes_sequence {values : List Value} {as : List α}
    (decodes : List.Forall₂ (Decodes item) values as) :
    Decodes (Reader.sequence item) (.list values) as := by
  intro text space rest written isSpace _
  cases written with
  | @list _ inner written =>
      have read : (elements item).run (inner ++ rest) = .ok (as, ']' :: rest) := by
        refine run_iterate .list (ElementsLeft item as) ?more ?done written
          (.intro decodes rfl)
        case more =>
          intro first value values state lead written rest left leads writes boundary
          cases left with
          | @intro done _ decoded whole =>
              obtain ⟨a, later, head, others, rfl⟩ := List.forall₂_cons_left_iff.mp decoded
              refine ⟨(false, a :: done), ?_, .intro others (by simpa using whole)⟩
              refine (run_bind_of_ok (run_nextElement_item leads writes)).trans ?_
              exact run_bind_of_ok (head writes isSpace_nil boundary)
        case done =>
          intro first state space left isSpace
          cases left with
          | @intro done _ decoded whole =>
              obtain rfl := List.forall₂_nil_left_iff.mp decoded
              refine ⟨(first, done), run_bind_of_ok (run_nextElement_close isSpace), ?_⟩
              rw [List.append_nil] at whole
              rw [← whole]
              rfl
      rw [Reader.sequence, List.cons_append, run_token?_bind isSpace (by decide)]
      exact run_within (run_map_of_ok read)

/-- An entry of an object stands for an entry of a table. -/
structure DecodesEntry (item : Reader (Except Rejection α)) (entry : String × Value)
    (pair : String × α) : Prop where
  key : entry.1 = pair.1
  value : Decodes item entry.2 (.ok pair.2)

/-- The table so far with the entries that are left makes up `whole`. -/
inductive EntriesLeft (item : Reader (Except Rejection α)) (whole : Table α) :
    Bool → List (String × Value) → Bool × Except Rejection (Table α) → Prop where
  | intro {first : Bool} {entries : List (String × Value)} {table : Table α}
      {later : List (String × α)} :
      List.Forall₂ (DecodesEntry item) entries later → table.insertAll later = whole →
      EntriesLeft item whole first entries (first, .ok table)

theorem decodes_map {item : Reader (Except Rejection α)} {entries : List (String × Value)}
    {pairs : List (String × α)} (decodes : List.Forall₂ (DecodesEntry item) entries pairs) :
    Decodes (map item) (.object entries) (Table.ofList pairs) := by
  intro text space rest written isSpace _
  cases written with
  | @object _ inner written =>
      have read : (Reader.entries item).run (inner ++ rest) =
          .ok (.ok (Table.ofList pairs), '\x7d' :: rest) := by
        refine run_iterate .object (EntriesLeft item (Table.ofList pairs)) ?more ?done
          written (.intro decodes rfl)
        case more =>
          intro first entry entries state lead written rest left leads writes boundary
          cases left with
          | @intro table _ decoded whole =>
              obtain ⟨pair, later, head, others, rfl⟩ := List.forall₂_cons_left_iff.mp decoded
              refine ⟨(false, .ok (table.insert pair.1 pair.2)), ?_, .intro others whole⟩
              cases writes with
              | entry quotes isBefore isAfter writes =>
                  have value := head.value writes isAfter boundary
                  simp only [List.append_assoc, List.cons_append]
                  refine (run_bind_of_ok (run_nextKey_item leads quotes)).trans ?_
                  refine (run_bind_of_ok (run_text quotes _)).trans ?_
                  refine (run_bind_of_ok (run_colon isBefore)).trans ?_
                  refine (run_bind_of_ok value).trans ?_
                  rw [← head.key]
                  rfl
        case done =>
          intro first state space left isSpace
          cases left with
          | @intro table _ decoded whole =>
              obtain rfl := List.forall₂_nil_left_iff.mp decoded
              refine ⟨(first, .ok table), run_bind_of_ok (run_nextKey_close isSpace), ?_⟩
              rw [← whole]
              rfl
      rw [map, List.cons_append, run_token?_bind isSpace (by decide)]
      exact run_within read

end HlsEmit.Json
