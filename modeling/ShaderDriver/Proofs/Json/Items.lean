import ShaderDriver.Json.Parser
import ShaderDriver.Proofs.Text.Scanning

namespace ShaderDriver.Json

open Scan

theorem carries_spaces : Carries spaces spaces :=
  (carries_run isSpace).bind fun _ => carries_pure ()

theorem carries_codeUnit : Carries codeUnit codeUnit :=
  (carries_exactly 4 _).bind fun _ => carries_pure _

theorem carries_codePoint : Carries codePoint codePoint := by
  refine carries_codeUnit.bind fun unit => ?_
  split
  · refine (carries_literal "\\u").bind fun _ => carries_codeUnit.bind fun low => ?_
    split
    · exact carries_pure _
    · exact carries_failure
  · split
    · exact carries_failure
    · exact carries_pure _

theorem carries_escaped : Carries escaped escaped := by
  refine carries_next.bind fun c => ?_
  split
  case h_9 => exact carries_codePoint
  case h_10 => exact carries_failure
  all_goals exact carries_pure _

/-- A character of a string that stands for itself. -/
def isPlain (c : Char) : Bool := c != '"' && c != '\\' && c.toNat ≥ 0x20

/-- A character of a string, as it is or escaped. -/
def letter : Scan Char := (do char '\\'; escaped) <|> satisfy isPlain

theorem string_eq : string = (do
    char '"'
    let body ← many letter
    char '"'
    pure (String.ofList body)) := rfl

theorem begins_letter : Begins (fun c => c = '\\' ∨ isPlain c = true) letter :=
  ((begins_char '\\').bind fun _ => carries_escaped.takes).orElse (begins_satisfy isPlain)

theorem carries_letter : Carries letter letter := by
  have other := (begins_char '\\').bind fun _ => carries_escaped.takes
  refine ((carries_char '\\').bind fun _ => carries_escaped).orElse (carries_satisfy isPlain) other
    (begins_satisfy isPlain) ?_
  rintro _ rfl
  decide

theorem carries_string : Carries string string := by
  have letters : CarriesBefore (· = '"') (many letter) (many letter) :=
    carries_letter.many begins_letter (by rintro _ opened rfl; revert opened; decide)
  rw [string_eq]
  refine (carries_char '"').bind fun _ => letters.bind (fun body => ?_) fun body => ?_
  · exact (carries_char '"').bind fun _ => carries_pure _
  · exact (begins_char '"').bind fun _ => takes_pure _

theorem begins_string : Begins (· = '"') string := by
  rw [string_eq]
  exact (begins_char '"').bind fun _ => carries_letter.takes.many.bind fun _ =>
    (carries_char '"').takes.bind fun _ => takes_pure _

/-- The sign of a power of ten: whether it is negative. -/
def sign : Scan Bool := (do char '-'; pure true) <|> (do char '+'; pure false) <|> pure false

theorem power_eq : power = (do
    let _ ← satisfy fun c => c == 'e' || c == 'E'
    let negative ← sign
    let digits ← run1 Char.isDigit
    pure ⟨negative, Numeral.value digits⟩) := rfl

theorem sign_cons (c : Char) (cs : List Char) : sign (c :: cs) =
    if c = '-' then some (true, cs) else if c = '+' then some (false, cs) else some (false, c :: cs) := by
  by_cases minus : c = '-'
  · subst minus
    rfl
  · by_cases plus : c = '+'
    · subst plus
      rfl
    · have other (d : Char) (negative : Bool) (different : ¬ c = d) :
          (do char d; pure negative : Scan Bool) (c :: cs) = none :=
        ((begins_char d).bind fun _ => takes_pure negative).eq_none different cs
      rw [if_neg minus, if_neg plus]
      exact (orElse_of_eq_none (other '-' true minus)).trans (orElse_of_eq_none (other '+' false plus))

theorem carries_sign : Carries sign sign := by
  have marked (c : Char) (negative : Bool) : Carries (do char c; pure negative) (do char c; pure negative) :=
    (carries_char c).bind fun _ => carries_pure negative
  have lasting (c : Char) (negative : Bool) : Lasting (do char c; pure negative) :=
    lasting_char_bind (lasting_pure negative)
  exact (marked '-' true).orElse_of_lasting
    ((marked '+' false).orElse_of_lasting (carries_pure false) (lasting '+' false)) (lasting '-' true)

theorem carries_power : Carries power power := by
  rw [power_eq]
  exact (carries_satisfy _).bind fun _ => carries_sign.bind fun _ => (carries_run1 _).bind fun _ =>
    carries_pure _

theorem lasting_power : Lasting power := by
  have digits (negative : Bool) : Lasting (do
      let digits ← run1 Char.isDigit
      pure (⟨negative, Numeral.value digits⟩ : Power)) := by
    rw [bind_pure_comp]
    exact (lasting_run1 _).map _
  rw [power_eq]
  refine lasting_satisfy_bind fun _ front rest missing => ?_
  cases front with
  | nil => rfl
  | cons c front =>
    change (sign _).bind _ = none at missing ⊢
    rw [List.cons_append, sign_cons] at missing
    rw [sign_cons]
    by_cases minus : c = '-'
    · rw [if_pos minus] at missing ⊢
      exact digits true missing
    · rw [if_neg minus] at missing ⊢
      by_cases plus : c = '+'
      · rw [if_pos plus] at missing ⊢
        exact digits false missing
      · rw [if_neg plus] at missing ⊢
        rw [← List.cons_append] at missing
        exact digits false missing

/-- What of a number stands behind its first digits. -/
def measured (negative : Bool) (front : List Char) : Scan JsonValue := do
  guard (front.head? != some '0' || front.length == 1)
  let behind ← optionally do char '.'; run1 Char.isDigit
  let power ← optionally power
  let n := Numeral.value front
  if behind.isNone && power.isNone && !negative && n < UInt64.size then pure (.integer n)
  else if behind.isNone && power.isNone && negative && 0 < n && n ≤ UInt64.size / 2 then
    pure (.integer (-(n : Int)))
  else floating negative front (behind.getD []) power

theorem number_eq : number = (do
    let minus ← optionally (char '-')
    let front ← run1 Char.isDigit
    measured minus.isSome front) := rfl

theorem carries_measured (negative : Bool) (front : List Char) :
    Carries (measured negative front) (measured negative front) := by
  have point := (carries_char '.').bind fun _ => carries_run1 Char.isDigit
  have behind := point.optionally (lasting_char_bind (lasting_run1 _))
  refine (carries_guard _).bind fun _ => behind.bind fun behind =>
    (carries_power.optionally lasting_power).bind fun power => ?_
  dsimp only
  split
  · exact carries_pure _
  · split
    · exact carries_pure _
    · exact carries_lift _

theorem carries_number : Carries number number := by
  rw [number_eq]
  exact ((carries_char '-').optionally (lasting_char '-')).bind fun minus =>
    (carries_run1 _).bind fun front => carries_measured _ _

theorem begins_number : Begins (fun c => c = '-' ∨ c.isDigit = true) number := by
  rw [number_eq]
  exact (begins_char '-').optionally_bind fun _ => (begins_run1 _).bind fun _ => (carries_measured _ _).takes

/-- A word that stands for a value. -/
def word (spelled : String) (meant : JsonValue) : Scan JsonValue := do
  literal spelled
  pure meant

/-- The words. -/
def words : Scan JsonValue :=
  word "null" .null <|> word "true" (.boolean true) <|> word "false" (.boolean false)

theorem scalar_eq : scalar = (JsonValue.string <$> string <|> number <|> words) := rfl

theorem carries_word (spelled : String) (meant : JsonValue) :
    Carries (word spelled meant) (word spelled meant) :=
  (carries_literal spelled).bind fun _ => carries_pure meant

theorem begins_word {spelled : String} {c : Char} {rest : List Char} (start : spelled.toList = c :: rest)
    (meant : JsonValue) : Begins (· = c) (word spelled meant) :=
  (begins_literal start).bind fun _ => takes_pure meant

theorem begins_null : Begins (· = 'n') (word "null" .null) := begins_word rfl _

theorem begins_true : Begins (· = 't') (word "true" (.boolean true)) := begins_word rfl _

theorem begins_false : Begins (· = 'f') (word "false" (.boolean false)) := begins_word rfl _

theorem begins_words : Begins (fun c => c = 'n' ∨ c = 't' ∨ c = 'f') words :=
  begins_null.orElse (begins_true.orElse begins_false)

theorem carries_words : Carries words words := by
  refine (carries_word _ _).orElse ((carries_word _ _).orElse (carries_word _ _) begins_true begins_false ?_)
    begins_null (begins_true.orElse begins_false) ?_
  · rintro _ rfl
    decide
  · rintro _ rfl
    decide

/-- How a value starts that is neither array nor object. -/
def OpensScalar (c : Char) : Prop :=
  c = '"' ∨ (c = '-' ∨ c.isDigit = true) ∨ c = 'n' ∨ c = 't' ∨ c = 'f'

theorem begins_scalar : Begins OpensScalar scalar := by
  rw [scalar_eq]
  exact (begins_string.map JsonValue.string).orElse (begins_number.orElse begins_words)

theorem carries_scalar : Carries scalar scalar := by
  have others : Carries (number <|> words) (number <|> words) := by
    refine carries_number.orElse carries_words begins_number begins_words ?_
    rintro _ number (rfl | rfl | rfl) <;> revert number <;> decide
  rw [scalar_eq]
  refine (carries_string.map JsonValue.string).orElse others (begins_string.map JsonValue.string)
    (begins_number.orElse begins_words) ?_
  rintro _ rfl
  decide

/-- Items between brackets. -/
def bracketed {α : Type} (opening closing : Char) (item : Scan α) : Scan (List α) := do
  char opening
  spaces
  let items ← optionally (separated item (char ','))
  char closing
  pure (items.getD [])

section Bracketed

variable {α : Type} {p q : Scan α} {opens : Char → Prop}

theorem begins_bracketed (opening closing : Char) (takes : Takes p) :
    Begins (· = opening) (bracketed opening closing p) := by
  have items := (takes.separated (carries_char ',').takes).optionally
  exact (begins_char opening).bind fun _ => carries_spaces.takes.bind fun _ => items.bind fun _ =>
    (carries_char closing).takes.bind fun _ => takes_pure _

theorem carries_bracketed (opening closing : Char) (carries : Carries p q) (begins : Begins opens q)
    (apart : ¬ opens closing) (different : closing ≠ ',') :
    Carries (bracketed opening closing p) (bracketed opening closing q) := by
  have items : CarriesBefore (· = closing) (separated p (char ',')) (separated q (char ',')) :=
    carriesBefore_separated carries begins.takes (carries_char ',') (begins_char ',') <| by
      rintro _ rfl
      exact different.symm
  have starts : Begins opens (separated q (char ',')) :=
    begins.bind fun _ => ((carries_char ',').takes.bind fun _ => begins.takes).many.bind fun _ => takes_pure _
  refine (carries_char opening).bind fun _ => carries_spaces.bind fun _ =>
    (items.optionally starts ?_).bind (fun _ => ?_) fun _ => ?_
  · rintro _ opened rfl
    exact apart opened
  · exact (carries_char closing).bind fun _ => carries_pure _
  · exact (begins_char closing).bind fun _ => takes_pure _

end Bracketed

/-- A field of an object. -/
def field (depth : Nat) : Scan (String × JsonValue) := do
  spaces
  let name ← string
  spaces
  char ':'
  let found ← value depth
  pure (name, found)

/-- The object with the given fields. -/
def objectOf (fields : List (String × JsonValue)) : JsonValue :=
  .object (fields.foldl (fun sorted field => insert field sorted) [])

theorem value_zero : value 0 = (do
    spaces
    let found ← scalar
    spaces
    pure found) := rfl

theorem value_succ (depth : Nat) : value (depth + 1) = (do
    spaces
    let found ← scalar <|> JsonValue.array <$> bracketed '[' ']' (value depth) <|>
      objectOf <$> bracketed '\x7b' '\x7d' (field depth)
    spaces
    pure found) := by
  simp only [value, bracketed, objectOf, field, map_bind, map_pure]

theorem begins_spaces_bind {β : Type} {opens : Char → Prop} {p : Scan β} (begins : Begins opens p) :
    Begins (fun c => isSpace c = true ∨ opens c) (do spaces; p) := by
  unfold spaces
  rw [bind_assoc]
  exact begins_run_bind fun _ => begins

/-- How a value starts. -/
def OpensValue (c : Char) : Prop := isSpace c = true ∨ OpensScalar c ∨ c = '[' ∨ c = '\x7b'

theorem begins_field {depth : Nat} (takes : Takes (value depth)) :
    Begins (fun c => isSpace c = true ∨ c = '"') (field depth) :=
  begins_spaces_bind <| begins_string.bind fun _ => carries_spaces.takes.bind fun _ =>
    (carries_char ':').takes.bind fun _ => takes.bind fun _ => takes_pure _

theorem carries_field {depth depth' : Nat} (carries : Carries (value depth) (value depth')) :
    Carries (field depth) (field depth') :=
  carries_spaces.bind fun _ => carries_string.bind fun _ => carries_spaces.bind fun _ =>
    (carries_char ':').bind fun _ => carries.bind fun _ => carries_pure _

theorem begins_array {depth : Nat} (takes : Takes (value depth)) :
    Begins (· = '[') (JsonValue.array <$> bracketed '[' ']' (value depth)) :=
  (begins_bracketed '[' ']' takes).map JsonValue.array

theorem begins_object {depth : Nat} (takes : Takes (value depth)) :
    Begins (· = '\x7b') (objectOf <$> bracketed '\x7b' '\x7d' (field depth)) :=
  (begins_bracketed '\x7b' '\x7d' (begins_field takes).takes).map objectOf

theorem begins_value (depth : Nat) : Begins OpensValue (value depth) := by
  have around {α : Type} {opens : Char → Prop} {p : Scan α} (begins : Begins opens p) :
      Begins (fun c => isSpace c = true ∨ opens c) (do spaces; let found ← p; spaces; pure found) :=
    begins_spaces_bind <| begins.bind fun _ => carries_spaces.takes.bind fun _ => takes_pure _
  induction depth with
  | zero =>
    rw [value_zero]
    exact (around begins_scalar).mono fun c opened => opened.imp_right .inl
  | succ depth ih =>
    rw [value_succ]
    exact around (begins_scalar.orElse ((begins_array ih.takes).orElse (begins_object ih.takes)))

theorem carries_around {α : Type} {p q : Scan α} (carries : Carries p q) :
    Carries (do spaces; let found ← p; spaces; pure found) (do spaces; let found ← q; spaces; pure found) :=
  carries_spaces.bind fun _ => carries.bind fun _ => carries_spaces.bind fun _ => carries_pure _

/-- What a value takes of a text stands for the same value alone, and where more may be open at once. -/
theorem carries_value {depth depth' : Nat} (within : depth ≤ depth') :
    Carries (value depth) (value depth') := by
  induction depth generalizing depth' with
  | zero =>
    rw [value_zero]
    cases depth' with
    | zero => exact carries_around carries_scalar
    | succ depth' =>
      rw [value_succ]
      exact carries_around (carries_scalar.orElse_of_left _)
  | succ depth ih =>
    cases depth' with
    | zero => cases within
    | succ depth' =>
      have items := ih (Nat.le_of_succ_le_succ within)
      have starts := begins_value depth'
      have closed : ¬ OpensValue ']' := by
        unfold OpensValue OpensScalar
        decide
      have array := carries_bracketed '[' ']' items starts closed (by decide)
      have object := carries_bracketed '\x7b' '\x7d' (carries_field items) (begins_field starts.takes)
        (by decide) (by decide)
      have arrayStarts := begins_array starts.takes
      have objectStarts := begins_object starts.takes
      rw [value_succ, value_succ]
      refine carries_around (carries_scalar.orElse
        ((array.map .array).orElse (object.map objectOf) arrayStarts objectStarts ?_) begins_scalar
        (arrayStarts.orElse objectStarts) ?_)
      · rintro _ rfl
        decide
      · unfold OpensScalar
        rintro _ opened (rfl | rfl) <;> revert opened <;> decide

def IsArray : JsonValue → Prop
  | .array _ => True
  | _ => False

theorem floating_not_array {negative : Bool} {front behind : List Char} {power : Option Power}
    {found : JsonValue} (written : floating negative front behind power = some found) : ¬ IsArray found := by
  unfold floating at written
  dsimp only at written
  split at written
  · split at written
    · cases written
    · cases written
      exact id
  · obtain ⟨x, -, same⟩ := Option.bind_eq_some_iff.1 written
    cases same
    exact id

theorem number_not_array : Gives (¬ IsArray ·) number := by
  rw [number_eq]
  refine gives_bind _ fun _ => gives_bind _ fun _ => gives_bind _ fun _ => gives_bind _ fun _ =>
    gives_bind _ fun power => ?_
  dsimp only
  split
  · exact gives_pure id
  · split
    · exact gives_pure id
    · exact gives_lift fun found written => floating_not_array written

theorem scalar_not_array : Gives (¬ IsArray ·) scalar := by
  have word (spelled : String) {meant : JsonValue} (other : ¬ IsArray meant) :
      Gives (¬ IsArray ·) (word spelled meant) := gives_bind _ fun _ => gives_pure other
  have words : Gives (¬ IsArray ·) words := (word _ id).orElse ((word _ id).orElse (word _ id))
  rw [scalar_eq]
  exact (gives_map _ fun _ => id).orElse (number_not_array.orElse words)

theorem spaces_eq_some {cs left : List Char} {u : Unit} (ran : spaces cs = some (u, left)) :
    ∃ blank, cs = blank ++ left ∧ ∀ c ∈ blank, isSpace c = true := by
  obtain ⟨blank, middle, found, rest⟩ := bind_eq_some.1 ran
  obtain ⟨whole, blanks, -⟩ := run_eq_some.1 found
  obtain ⟨-, rfl⟩ := pure_eq_some.1 rest
  exact ⟨blank, whole, blanks⟩

/-- What is read between brackets is cut at the commas. -/
theorem parts_of_bracketed {α : Type} {opening closing : Char} {p : Scan α} {cs left : List Char}
    {xs : List α} (takes : Takes p) (ran : bracketed opening closing p cs = some (xs, left)) :
    ∃ blank parts, (∀ c ∈ blank, isSpace c = true) ∧ List.Forall₂ (Covers p) parts xs ∧
      cs = opening :: blank ++ [','].intercalate parts ++ closing :: left := by
  obtain ⟨_, _, opened, ran⟩ := bind_eq_some.1 ran
  obtain ⟨_, _, skipped, ran⟩ := bind_eq_some.1 ran
  obtain ⟨_, _, read, ran⟩ := bind_eq_some.1 ran
  obtain ⟨_, _, closed, ran⟩ := bind_eq_some.1 ran
  obtain ⟨rfl, rfl⟩ := pure_eq_some.1 ran
  obtain rfl := char_eq_some.1 opened
  obtain rfl := char_eq_some.1 closed
  obtain ⟨blank, rfl, blanks⟩ := spaces_eq_some skipped
  rcases orElse_eq_some.1 read with listed | ⟨-, missing⟩
  · obtain ⟨xs, items, rfl⟩ := map_eq_some.1 listed
    obtain ⟨parts, rfl, covered⟩ := parts_of_separated takes items
    exact ⟨blank, parts, blanks, covered, by simp⟩
  · obtain ⟨rfl, rfl⟩ := pure_eq_some.1 missing
    exact ⟨blank, [], blanks, .nil, by simp⟩

/-- The text of an array, written with the texts of its items, each of which stands for its item alone. -/
structure ArrayText (text : String) (items : List String) : Prop where
  written : ∃ before inside behind, (∀ c ∈ before ++ inside ++ behind, isSpace c = true) ∧
    text.toList = before ++ '[' :: inside ++ [','].intercalate (items.map String.toList) ++ ']' :: behind
  read : ∃ values, parse? text = some (.array values) ∧ items.map parse? = values.map some

theorem parse?_of_covers {part : List Char} {found : JsonValue} (covers : Covers (value 126) part found) :
    parse? (String.ofList part) = some found := by
  have alone := (carries_value (Nat.le_succ 126)).covered covers
  refine whole_eq_some.2 ?_
  rwa [String.toList_ofList]

theorem map_parse?_of_covered {parts : List (List Char)} {values : List JsonValue}
    (covered : List.Forall₂ (Covers (value 126)) parts values) :
    (parts.map String.ofList).map parse? = values.map some := by
  induction covered with
  | nil => rfl
  | cons covers _ ih =>
    simp only [List.map_cons, ih]
    rw [parse?_of_covers covers]

theorem exists_arrayText {text : String} {values : List JsonValue}
    (read : parse? text = some (.array values)) : ∃ items, ArrayText text items := by
  have ran : value (126 + 1) text.toList = some (.array values, []) := whole_eq_some.1 read
  rw [value_succ] at ran
  obtain ⟨_, _, skipped, ran⟩ := bind_eq_some.1 ran
  obtain ⟨_, _, found, ran⟩ := bind_eq_some.1 ran
  obtain ⟨_, _, skipped', ran⟩ := bind_eq_some.1 ran
  obtain ⟨rfl, rfl⟩ := pure_eq_some.1 ran
  obtain ⟨before, whole, blanks⟩ := spaces_eq_some skipped
  obtain ⟨behind, rfl, blanks'⟩ := spaces_eq_some skipped'
  rcases orElse_eq_some.1 found with scalar | ⟨-, collection⟩
  · exact absurd trivial (scalar_not_array scalar)
  rcases orElse_eq_some.1 collection with array | ⟨-, object⟩
  · obtain ⟨xs, array, same⟩ := map_eq_some.1 array
    cases same
    obtain ⟨inside, parts, blanks'', covered, rfl⟩ := parts_of_bracketed (begins_value 126).takes array
    refine ⟨parts.map String.ofList, ⟨before, inside, behind, ?_, ?_⟩, values, read, ?_⟩
    · simp only [List.mem_append]
      rintro c ((first | second) | third)
      · exact blanks c first
      · exact blanks'' c second
      · exact blanks' c third
    · have texts : (parts.map String.ofList).map String.toList = parts := by
        rw [List.map_map]
        exact List.map_id'' (fun _ => String.toList_ofList) parts
      rw [texts, whole]
      simp
    · exact map_parse?_of_covered covered
  · obtain ⟨xs, -, same⟩ := map_eq_some.1 object
    cases same

end ShaderDriver.Json
