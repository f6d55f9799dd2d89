import ShaderDriver.Json.Printer

namespace ShaderDriver

/-- A value in which every number is an integer. -/
inductive JsonValue.Integral : JsonValue → Prop
  | null : Integral .null
  | boolean (value : Bool) : Integral (.boolean value)
  | integer (value : Int) : Integral (.integer value)
  | string (value : String) : Integral (.string value)
  | array {items : List JsonValue} : (∀ item ∈ items, Integral item) → Integral (.array items)
  | object {fields : List (String × JsonValue)} : (∀ field ∈ fields, Integral field.2) →
      Integral (.object fields)

namespace Json

/-- The characters that are escaped by a letter, with their letters. -/
def lettered : List (Char × Char) :=
  [('"', '"'), ('\\', '\\'), ('\n', 'n'), ('\r', 'r'), ('\t', 't'), ('\x08', 'b'), ('\x0C', 'f')]

/-- How a character is written: as it is, by a backslash and a letter, or by its number. -/
theorem escape_cases (c : Char) :
    (c ≠ '"' ∧ c ≠ '\\' ∧ escape c = [c]) ∨
    (∃ letter, (c, letter) ∈ lettered ∧ escape c = ['\\', letter]) ∨
    (c.toNat < 0x20 ∧ escape c = ['\\', 'u', '0', '0'] ++ twoDigits c.toNat) := by
  by_cases listed : c ∈ lettered.map Prod.fst
  · obtain ⟨⟨_, letter⟩, member, rfl⟩ := List.mem_map.1 listed
    refine .inr (.inl ⟨letter, member, ?_⟩)
    simp only [lettered, List.mem_cons, Prod.mk.injEq, List.not_mem_nil, or_false] at member
    rcases member with h | h | h | h | h | h | h <;> rw [h.1, h.2] <;> rfl
  · have other : ∀ d ∈ lettered.map Prod.fst, c ≠ d := fun d member same => listed (same ▸ member)
    have plain : escape c =
        if c.toNat < 0x20 then ['\\', 'u', '0', '0'] ++ twoDigits c.toNat else [c] := by
      simp only [lettered, List.map_cons, List.map_nil, List.forall_mem_cons] at other
      obtain ⟨quote, backslash, feed, ret, tab, back, page, -⟩ := other
      rw [escape, if_neg quote, if_neg backslash, if_neg feed, if_neg ret, if_neg tab, if_neg back,
        if_neg page]
    by_cases control : c.toNat < 0x20
    · exact .inr (.inr ⟨control, by rw [plain, if_pos control]⟩)
    · exact .inl ⟨other _ (by decide), other _ (by decide), by rw [plain, if_neg control]⟩

theorem lettered_inj {c d letter : Char} (one : (c, letter) ∈ lettered) (other : (d, letter) ∈ lettered) :
    c = d := by
  have injective : ∀ p ∈ lettered, ∀ q ∈ lettered, p.2 = q.2 → p.1 = q.1 := by decide
  exact injective _ one _ other rfl

theorem twoDigits_inj {m n : Nat} (low : m < 0x20) (low' : n < 0x20) (same : twoDigits m = twoDigits n) :
    m = n := by
  have injective : ∀ m < 0x20, ∀ n < 0x20, twoDigits m = twoDigits n → m = n := by decide
  exact injective m low n low' same

/-- The first character of an escaped text tells how it goes on, so its end is clear. -/
theorem escape_append_inj {c d : Char} {rest rest' : List Char}
    (same : escape c ++ rest = escape d ++ rest') : c = d ∧ rest = rest' := by
  have noU {c : Char} : (c, 'u') ∉ lettered := by
    intro member
    have free : ∀ p ∈ lettered, p.2 ≠ 'u' := by decide
    exact free _ member rfl
  rcases escape_cases c with ⟨-, notBackslash, plain⟩ | ⟨letter, listed, short⟩ | ⟨low, long⟩ <;>
    rcases escape_cases d with ⟨-, notBackslash', plain'⟩ | ⟨letter', listed', short'⟩ | ⟨low', long'⟩
  · rw [plain, plain'] at same
    exact List.cons.inj same
  · rw [plain, short'] at same
    exact absurd (List.cons.inj same).1 notBackslash
  · rw [plain, long'] at same
    exact absurd (List.cons.inj same).1 notBackslash
  · rw [short, plain'] at same
    exact absurd (List.cons.inj same).1.symm notBackslash'
  · rw [short, short'] at same
    obtain ⟨sameLetter, sameRest⟩ := List.cons.inj (List.cons.inj same).2
    rw [← sameLetter] at listed'
    exact ⟨lettered_inj listed listed', sameRest⟩
  · rw [short, long'] at same
    rw [(List.cons.inj (List.cons.inj same).2).1] at listed
    exact absurd listed noU
  · rw [long, plain'] at same
    exact absurd (List.cons.inj same).1.symm notBackslash'
  · rw [long, short'] at same
    rw [← (List.cons.inj (List.cons.inj same).2).1] at listed'
    exact absurd listed' noU
  · rw [long, long'] at same
    obtain ⟨digits, sameRest⟩ := List.append_inj same rfl
    have numbers := twoDigits_inj low low' (List.append_cancel_left digits)
    exact ⟨Char.toNat_inj.1 numbers, sameRest⟩

/-- No character is written as a quote, which therefore ends a string. -/
theorem escape_ne_quote (c : Char) (rest rest' : List Char) : escape c ++ rest ≠ '"' :: rest' := by
  intro same
  rcases escape_cases c with ⟨notQuote, -, plain⟩ | ⟨letter, -, short⟩ | ⟨-, long⟩
  · rw [plain] at same
    exact notQuote (List.cons.inj same).1
  · rw [short] at same
    cases same
  · rw [long] at same
    cases same

theorem escaped_inj {cs ds rest rest' : List Char}
    (same : cs.flatMap escape ++ '"' :: rest = ds.flatMap escape ++ '"' :: rest') :
    cs = ds ∧ rest = rest' := by
  induction cs generalizing ds with
  | nil =>
    cases ds with
    | nil => exact ⟨rfl, (List.cons.inj same).2⟩
    | cons d ds =>
      rw [List.flatMap_cons, List.append_assoc] at same
      exact absurd same.symm (escape_ne_quote d _ _)
  | cons c cs ih =>
    cases ds with
    | nil =>
      rw [List.flatMap_cons, List.append_assoc] at same
      exact absurd same (escape_ne_quote c _ _)
    | cons d ds =>
      rw [List.flatMap_cons, List.flatMap_cons, List.append_assoc, List.append_assoc] at same
      obtain ⟨rfl, others⟩ := escape_append_inj same
      obtain ⟨rfl, sameRest⟩ := ih others
      exact ⟨rfl, sameRest⟩

theorem quote_append_inj {s t : String} {rest rest' : List Char}
    (same : quote s ++ rest = quote t ++ rest') : s = t ∧ rest = rest' := by
  simp only [quote, List.cons_append, List.append_assoc, List.nil_append, List.cons.injEq, true_and] at same
  obtain ⟨letters, sameRest⟩ := escaped_inj same
  exact ⟨String.toList_inj.1 letters, sameRest⟩

/-- What may follow a value: nothing, or a text that starts as what separates values does. -/
def Separated (rest : List Char) : Prop := ∀ c ∈ rest.head?, c = ',' ∨ c = '\n'

theorem separated_nil : Separated [] := nofun

theorem separated_feed (rest : List Char) : Separated ('\n' :: rest) := by
  rintro _ ⟨⟩
  exact .inr rfl

/-- A word without separators ends where the separator comes. -/
theorem word_append_inj {word other rest rest' : List Char} (flat : ∀ c ∈ word, c ≠ ',' ∧ c ≠ '\n')
    (flat' : ∀ c ∈ other, c ≠ ',' ∧ c ≠ '\n') (ended : Separated rest) (ended' : Separated rest')
    (same : word ++ rest = other ++ rest') : word = other ∧ rest = rest' := by
  have inside {c : Char} {more : List Char} (apart : c ≠ ',' ∧ c ≠ '\n') : ¬ Separated (c :: more) :=
    fun ended => (ended c rfl).elim apart.1 apart.2
  induction word generalizing other with
  | nil =>
    cases other with
    | nil => exact ⟨rfl, same⟩
    | cons d other =>
      rw [List.nil_append] at same
      rw [same] at ended
      exact absurd ended (inside (flat' d List.mem_cons_self))
  | cons c word ih =>
    obtain ⟨first, others⟩ := List.forall_mem_cons.1 flat
    cases other with
    | nil =>
      rw [List.nil_append] at same
      rw [← same] at ended'
      exact absurd ended' (inside first)
    | cons d other =>
      obtain ⟨rfl, tails⟩ := List.cons.inj same
      obtain ⟨rfl, sameRest⟩ := ih others (List.forall_mem_cons.1 flat').2 tails
      exact ⟨rfl, sameRest⟩

theorem isDigit_of_mem_natural {n : Nat} {c : Char} (member : c ∈ n.repr.toList) : c.isDigit = true := by
  rw [Nat.toList_repr] at member
  exact Nat.isDigit_of_mem_toDigits (by decide) (by decide) member

/-- An integer is written with digits, and perhaps a sign. -/
theorem mem_integer {n : Int} {c : Char} (member : c ∈ (toString n).toList) : c = '-' ∨ c.isDigit = true := by
  rw [Int.toString_eq_repr, Int.repr_eq_if] at member
  split at member
  · exact .inr (isDigit_of_mem_natural member)
  · rw [String.toList_append, List.mem_append] at member
    rcases member with sign | digits
    · exact .inl (List.mem_singleton.1 sign)
    · exact .inr (isDigit_of_mem_natural digits)

theorem integer_inj {m n : Int} (same : m.repr = n.repr) : m = n := by
  have natural {a b : Nat} (same : a.repr = b.repr) : a = b := by
    have digits := congrArg (fun s => Nat.ofDigitChars 10 s.toList 0) same
    simpa only [Nat.toList_repr, Nat.ofDigitChars_ten_toDigits] using digits
  have signed (a b : Nat) : "-" ++ a.repr ≠ b.repr := by
    intro same
    have member : '-' ∈ b.repr.toList := same ▸ by simp
    exact absurd (isDigit_of_mem_natural member) (by decide)
  rw [Int.repr_eq_if, Int.repr_eq_if] at same
  split at same <;> split at same
  · have magnitude := natural same
    omega
  · exact absurd same.symm (signed _ _)
  · exact absurd same (signed _ _)
  · have magnitude := natural ((String.append_right_inj _).1 same)
    omega

theorem integer_append_inj {m n : Int} {rest rest' : List Char} (ended : Separated rest)
    (ended' : Separated rest') (same : (toString m).toList ++ rest = (toString n).toList ++ rest') :
    m = n ∧ rest = rest' := by
  have flat (n : Int) : ∀ c ∈ (toString n).toList, c ≠ ',' ∧ c ≠ '\n' := by
    intro c member
    rcases mem_integer member with rfl | digit
    · decide
    · refine ⟨?_, ?_⟩ <;> rintro rfl <;> cases digit
  obtain ⟨digits, sameRest⟩ := word_append_inj (flat m) (flat n) ended ended' same
  rw [String.toList_inj, Int.toString_eq_repr, Int.toString_eq_repr] at digits
  exact ⟨integer_inj digits, sameRest⟩

/-- The kinds of values that their first characters tell apart. -/
inductive Shape where
  | null
  | boolean
  | number
  | string
  | array
  | object
deriving DecidableEq

def Shape.ofStart (c : Char) : Shape :=
  if c = 'n' then null
  else if c = 't' ∨ c = 'f' then boolean
  else if c = '"' then string
  else if c = '[' then array
  else if c = '\x7b' then object
  else number

def shape : JsonValue → Shape
  | .null => .null
  | .boolean _ => .boolean
  | .integer _ | .float _ => .number
  | .string _ => .string
  | .array _ => .array
  | .object _ => .object

theorem ofStart_integer {c : Char} (start : c = '-' ∨ c.isDigit = true) : Shape.ofStart c = .number := by
  rcases start with rfl | digit
  · rfl
  · have other {d : Char} (letter : d.isDigit = false) : c ≠ d := by
      rintro rfl
      rw [digit] at letter
      cases letter
    rw [Shape.ofStart, if_neg (other rfl), if_neg (not_or_intro (other rfl) (other rfl)),
      if_neg (other rfl), if_neg (other rfl), if_neg (other rfl)]

theorem write_start {v : JsonValue} (integral : v.Integral) (level : Nat) :
    ∃ c more, write level v = c :: more ∧ Shape.ofStart c = shape v := by
  cases integral with
  | null => exact ⟨'n', _, by rw [write]; rfl, rfl⟩
  | boolean value =>
    cases value
    · exact ⟨'f', _, by rw [write]; rfl, rfl⟩
    · exact ⟨'t', _, by rw [write]; rfl, rfl⟩
  | integer value =>
    obtain ⟨c, more, start⟩ : ∃ c more, (toString value).toList = c :: more := by
      refine List.exists_cons_of_ne_nil fun empty => ?_
      rw [Int.toString_eq_repr, Int.repr_eq_if] at empty
      split at empty
      · rw [Nat.toList_repr] at empty
        exact Nat.toDigits_ne_nil empty
      · rw [String.toList_append] at empty
        cases empty
    refine ⟨c, more, by rw [write, start], ofStart_integer (mem_integer (n := value) ?_)⟩
    rw [start]
    exact List.mem_cons_self
  | string value => exact ⟨'"', _, by rw [write, quote]; rfl, rfl⟩
  | @array items _ =>
    cases items with
    | nil => exact ⟨'[', _, by rw [write], rfl⟩
    | cons item items => exact ⟨'[', _, by rw [write]; rfl, rfl⟩
  | @object fields _ =>
    cases fields with
    | nil => exact ⟨'\x7b', _, by rw [write], rfl⟩
    | cons field fields => exact ⟨'\x7b', _, by rw [write]; rfl, rfl⟩

theorem shape_eq_of_write {v w : JsonValue} (integral : v.Integral) (integral' : w.Integral) {level : Nat}
    {rest rest' : List Char} (same : write level v ++ rest = write level w ++ rest') : shape v = shape w := by
  obtain ⟨c, more, start, kind⟩ := write_start integral level
  obtain ⟨d, more', start', kind'⟩ := write_start integral' level
  rw [start, start'] at same
  rw [← kind, ← kind', (List.cons.inj same).1]

/-- No other admitted text is `a` written, whatever follows it. -/
def WrittenOnce {α : Type} (admitted : α → Prop) (written : α → List Char) (a : α) : Prop :=
  ∀ b rest rest', admitted b → Separated rest → Separated rest' →
    written a ++ rest = written b ++ rest' → a = b ∧ rest = rest'

section Rows

variable {α : Type} {admitted : α → Prop} {written : α → List Char} {gap : List Char}

/-- Rows behind a first one, each after a comma and a new line. -/
def rows (gap : List Char) (written : α → List Char) (as : List α) : List Char :=
  as.flatMap fun a => [',', '\n'] ++ gap ++ written a

theorem separated_rows (as : List α) (rest : List Char) :
    Separated (rows gap written as ++ '\n' :: rest) := by
  cases as with
  | nil => exact separated_feed rest
  | cons a as =>
    rintro _ ⟨⟩
    exact .inl rfl

theorem rows_append_inj {as bs : List α} {rest rest' : List Char}
    (each : ∀ a ∈ as, WrittenOnce admitted written a) (all : ∀ b ∈ bs, admitted b)
    (same : rows gap written as ++ '\n' :: rest = rows gap written bs ++ '\n' :: rest') :
    as = bs ∧ rest = rest' := by
  induction as generalizing bs with
  | nil =>
    cases bs with
    | nil => exact ⟨rfl, (List.cons.inj same).2⟩
    | cons b bs => cases (List.cons.inj same).1
  | cons a as ih =>
    cases bs with
    | nil => cases (List.cons.inj same).1
    | cons b bs =>
      obtain ⟨first, others⟩ := List.forall_mem_cons.1 each
      obtain ⟨firstAdmitted, othersAdmitted⟩ := List.forall_mem_cons.1 all
      simp only [rows, List.flatMap_cons, List.append_assoc, List.append_cancel_left_eq] at same
      obtain ⟨rfl, tails⟩ := first b _ _ firstAdmitted (separated_rows as rest) (separated_rows bs rest') same
      obtain ⟨rfl, sameRest⟩ := ih others othersAdmitted tails
      exact ⟨rfl, sameRest⟩

/-- Rows between an opening line and a closing one. -/
theorem block_append_inj {a b : α} {as bs : List α} {rest rest' : List Char}
    (each : ∀ c ∈ a :: as, WrittenOnce admitted written c) (all : ∀ c ∈ b :: bs, admitted c)
    (same : written a ++ (rows gap written as ++ '\n' :: rest) =
      written b ++ (rows gap written bs ++ '\n' :: rest')) : a :: as = b :: bs ∧ rest = rest' := by
  obtain ⟨first, others⟩ := List.forall_mem_cons.1 each
  obtain ⟨firstAdmitted, othersAdmitted⟩ := List.forall_mem_cons.1 all
  obtain ⟨rfl, tails⟩ := first b _ _ firstAdmitted (separated_rows as rest) (separated_rows bs rest') same
  obtain ⟨rfl, sameRest⟩ := rows_append_inj others othersAdmitted tails
  exact ⟨rfl, sameRest⟩

end Rows

/-- A field of an object, without the separator before it. -/
def writeField (level : Nat) (field : String × JsonValue) : List Char :=
  quote field.1 ++ [':', ' '] ++ write level field.2

theorem writeItems_eq (level : Nat) (items : List JsonValue) :
    writeItems level items = rows (indent level) (write level) items := by
  induction items with
  | nil => rw [writeItems]; rfl
  | cons item items ih => rw [writeItems, ih]; rfl

theorem writeFields_eq (level : Nat) (fields : List (String × JsonValue)) :
    writeFields level fields = rows (indent level) (writeField level) fields := by
  induction fields with
  | nil => rw [writeFields]; rfl
  | cons field fields ih =>
    rw [writeFields, ih]
    simp only [rows, List.flatMap_cons, writeField, List.append_assoc]

theorem write_array (level : Nat) (item : JsonValue) (items : List JsonValue) (rest : List Char) :
    write level (.array (item :: items)) ++ rest =
      ['[', '\n'] ++ (indent (level + 1) ++ (write (level + 1) item ++
        (rows (indent (level + 1)) (write (level + 1)) items ++ '\n' :: (indent level ++ (']' :: rest))))) := by
  rw [write, writeItems_eq]
  simp only [List.append_assoc, List.cons_append, List.nil_append]

theorem write_object (level : Nat) (field : String × JsonValue) (fields : List (String × JsonValue))
    (rest : List Char) :
    write level (.object (field :: fields)) ++ rest =
      ['\x7b', '\n'] ++ (indent (level + 1) ++ (writeField (level + 1) field ++
        (rows (indent (level + 1)) (writeField (level + 1)) fields ++
          '\n' :: (indent level ++ ('\x7d' :: rest))))) := by
  rw [write, writeFields_eq]
  simp only [writeField, List.append_assoc, List.cons_append, List.nil_append]

/-- A field is written once if its value is, since its name ends with the quote. -/
theorem WrittenOnce.field {field : String × JsonValue} {level : Nat}
    (value : WrittenOnce JsonValue.Integral (write level) field.2) :
    WrittenOnce (fun field => field.2.Integral) (writeField level) field := by
  intro other rest rest' integral ended ended' same
  simp only [writeField, List.append_assoc] at same
  obtain ⟨names, tails⟩ := quote_append_inj same
  obtain ⟨values, sameRest⟩ := value other.2 rest rest' integral ended ended' (List.append_cancel_left tails)
  exact ⟨Prod.ext names values, sameRest⟩

theorem WrittenOnce.array {items : List JsonValue} (integral : ∀ item ∈ items, item.Integral) {level : Nat}
    (each : ∀ item ∈ items, WrittenOnce JsonValue.Integral (write (level + 1)) item) :
    WrittenOnce JsonValue.Integral (write level) (.array items) := by
  intro w rest rest' integral' _ _ same
  have kinds := shape_eq_of_write (.array integral) integral' same
  cases integral' <;> cases kinds
  rename_i others integral'
  cases items with
  | nil =>
    cases others with
    | nil => exact ⟨rfl, List.append_cancel_left same⟩
    | cons other others =>
      rw [write_array, write] at same
      cases same
  | cons item items =>
    cases others with
    | nil =>
      rw [write_array, write] at same
      cases same
    | cons other others =>
      rw [write_array, write_array, List.append_cancel_left_eq, List.append_cancel_left_eq] at same
      obtain ⟨list, tails⟩ := block_append_inj each integral' same
      rw [List.append_cancel_left_eq] at tails
      exact ⟨by rw [list], (List.cons.inj tails).2⟩

theorem WrittenOnce.object {fields : List (String × JsonValue)} (integral : ∀ field ∈ fields, field.2.Integral)
    {level : Nat} (each : ∀ field ∈ fields, WrittenOnce JsonValue.Integral (write (level + 1)) field.2) :
    WrittenOnce JsonValue.Integral (write level) (.object fields) := by
  intro w rest rest' integral' _ _ same
  have kinds := shape_eq_of_write (.object integral) integral' same
  cases integral' <;> cases kinds
  rename_i others integral'
  cases fields with
  | nil =>
    cases others with
    | nil => exact ⟨rfl, List.append_cancel_left same⟩
    | cons other others =>
      rw [write_object, write] at same
      cases same
  | cons field fields =>
    cases others with
    | nil =>
      rw [write_object, write] at same
      cases same
    | cons other others =>
      rw [write_object, write_object, List.append_cancel_left_eq, List.append_cancel_left_eq] at same
      obtain ⟨list, tails⟩ := block_append_inj (fun field member => (each field member).field) integral' same
      rw [List.append_cancel_left_eq] at tails
      exact ⟨by rw [list], (List.cons.inj tails).2⟩

theorem writtenOnce {v : JsonValue} (integral : v.Integral) (level : Nat) :
    WrittenOnce JsonValue.Integral (write level) v := by
  induction integral generalizing level with
  | null =>
    intro w rest rest' integral' _ _ same
    have kinds := shape_eq_of_write .null integral' same
    cases integral' <;> cases kinds
    exact ⟨rfl, List.append_cancel_left same⟩
  | boolean value =>
    intro w rest rest' integral' _ _ same
    have kinds := shape_eq_of_write (.boolean value) integral' same
    cases integral' <;> cases kinds
    rename_i other
    cases value <;> cases other <;> simp only [write] at same
    · exact ⟨rfl, List.append_cancel_left same⟩
    · cases same
    · cases same
    · exact ⟨rfl, List.append_cancel_left same⟩
  | integer value =>
    intro w rest rest' integral' ended ended' same
    have kinds := shape_eq_of_write (.integer value) integral' same
    cases integral' <;> cases kinds
    simp only [write] at same
    obtain ⟨rfl, sameRest⟩ := integer_append_inj ended ended' same
    exact ⟨rfl, sameRest⟩
  | string value =>
    intro w rest rest' integral' _ _ same
    have kinds := shape_eq_of_write (.string value) integral' same
    cases integral' <;> cases kinds
    simp only [write] at same
    obtain ⟨rfl, sameRest⟩ := quote_append_inj same
    exact ⟨rfl, sameRest⟩
  | array integral ih => exact .array integral fun item member => ih item member (level + 1)
  | object integral ih => exact .object integral fun field member => ih field member (level + 1)

/-- Values without floating point numbers are written alike only if they are the same. -/
theorem pretty_inj {v w : JsonValue} (integral : v.Integral) (integral' : w.Integral) :
    pretty v = pretty w ↔ v = w := by
  constructor
  · intro same
    have texts : write 0 v = write 0 w := by
      have lists := congrArg String.toList same
      rwa [pretty, pretty, String.toList_ofList, String.toList_ofList] at lists
    have joined : write 0 v ++ [] = write 0 w ++ [] := by rw [texts]
    exact (writtenOnce integral 0 w [] [] integral' separated_nil separated_nil joined).1
  · exact congrArg pretty

end Json

end ShaderDriver
