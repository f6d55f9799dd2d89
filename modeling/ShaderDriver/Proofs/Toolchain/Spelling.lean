import Mathlib.Data.List.Forall2
import Mathlib.Logic.Function.Basic
import ShaderDriver.Proofs.Toolchain.Installation
import ShaderDriver.Toolchain.Release

namespace ShaderDriver

namespace Numeral

/-- A nonempty run of ASCII digits whose value fits in 32 bits. -/
structure IsWord (digits : List Char) : Prop where
  numeral : isNumeral digits = true
  fits : value digits < UInt32.size

/-- The word that a numeral stands for. -/
def word (digits : List Char) : UInt32 := UInt32.ofNat (value digits)

theorem denotes_iff {digits : List Char} {n : UInt32} :
    Denotes digits n ↔ IsWord digits ∧ word digits = n := by
  constructor
  · rintro ⟨numeral, value⟩
    refine ⟨⟨numeral, value ▸ n.toNat_lt⟩, ?_⟩
    rw [word, value, UInt32.ofNat_toNat]
  · rintro ⟨⟨numeral, small⟩, rfl⟩
    exact ⟨numeral, (UInt32.toNat_ofNat_of_lt small).symm⟩

theorem Denotes.isWord {digits : List Char} {n : UInt32} (denotes : Denotes digits n) : IsWord digits :=
  (denotes_iff.1 denotes).1

theorem Denotes.word_eq {digits : List Char} {n : UInt32} (denotes : Denotes digits n) : word digits = n :=
  (denotes_iff.1 denotes).2

theorem mapM_read?_eq_some_iff {pieces : List (List Char)} {words : List UInt32} :
    pieces.mapM read? = some words ↔ List.Forall₂ Denotes pieces words := by
  induction pieces generalizing words with
  | nil => simp [eq_comm]
  | cons piece pieces ih =>
    simp only [List.mapM_cons, Option.bind_eq_bind, Option.bind_eq_some_iff, Option.pure_def,
      Option.some.injEq, List.forall₂_cons_left_iff, read?_eq_some_iff, ih]
    constructor
    · rintro ⟨first, denotes, others, all, rfl⟩
      exact ⟨first, others, denotes, all, rfl⟩
    · rintro ⟨first, others, denotes, all, rfl⟩
      exact ⟨first, denotes, others, all, rfl⟩

end Numeral

namespace Version

/-- A way to write a version: an optional `v`, then three or four numerals of 32-bit words between dots. -/
structure Spelling where
  marked : Bool
  major : List Char
  minor : List Char
  micro : List Char
  patch : Option (List Char)
  words : ∀ digits ∈ major :: minor :: micro :: patch.toList, Numeral.IsWord digits

namespace Spelling

def numerals (spelling : Spelling) : List (List Char) :=
  spelling.major :: spelling.minor :: spelling.micro :: spelling.patch.toList

def text (spelling : Spelling) : String :=
  String.ofList ((if spelling.marked then ['v'] else []) ++ ['.'].intercalate spelling.numerals)

/-- The version that is written. A patch number that is left out is zero. -/
def version (spelling : Spelling) : Version where
  major := Numeral.word spelling.major
  minor := Numeral.word spelling.minor
  micro := Numeral.word spelling.micro
  patch := spelling.patch.elim 0 Numeral.word

theorem denotes (spelling : Spelling) {digits : List Char} (member : digits ∈ spelling.numerals) :
    Numeral.Denotes digits (Numeral.word digits) :=
  Numeral.denotes_iff.2 ⟨spelling.words digits member, rfl⟩

theorem fields_numerals (spelling : Spelling) :
    Text.fields '.' (['.'].intercalate spelling.numerals) = spelling.numerals :=
  Text.fields_intercalate (List.cons_ne_nil _ _) fun _ member =>
    Numeral.not_mem (spelling.denotes member).numeral rfl

theorem mapM_numerals (spelling : Spelling) :
    spelling.numerals.mapM Numeral.read? = some (spelling.numerals.map Numeral.word) := by
  rw [Numeral.mapM_read?_eq_some_iff, List.forall₂_map_right_iff, List.forall₂_same]
  exact fun _ => spelling.denotes

/-- Nothing but the `v` in front is taken off. -/
theorem stripped (spelling : Spelling) :
    (Text.strip? ['v'] spelling.text.toList).getD spelling.text.toList =
      ['.'].intercalate spelling.numerals := by
  have unmarked : 'v' ∉ ['.'].intercalate spelling.numerals := by
    intro member
    rcases Text.mem_intercalate member with dot | ⟨digits, among, inside⟩
    · cases dot
    · exact Numeral.not_mem (spelling.denotes among).numeral rfl inside
  rw [text, String.toList_ofList]
  cases spelling.marked with
  | true =>
    have front : Text.strip? ['v'] (['v'] ++ ['.'].intercalate spelling.numerals) = some _ :=
      Text.strip?_eq_some.2 rfl
    rw [if_pos rfl, front, Option.getD_some]
  | false =>
    rw [if_neg Bool.false_ne_true, List.nil_append]
    cases found : Text.strip? ['v'] (['.'].intercalate spelling.numerals) with
    | none => rfl
    | some rest =>
      rw [Text.strip?_eq_some.1 found] at unmarked
      exact absurd List.mem_cons_self unmarked

/-- A spelling is read as its version. -/
theorem read?_text (spelling : Spelling) : read? spelling.text = some spelling.version := by
  rw [read?, spelling.stripped, spelling.fields_numerals, spelling.mapM_numerals]
  unfold numerals version
  cases spelling.patch <;> rfl

/-- The spelling that a version prints, with or without a `v`. -/
def printed (marked : Bool) (v : Version) : Spelling where
  marked := marked
  major := Numeral.digits v.major.toNat
  minor := Numeral.digits v.minor.toNat
  micro := Numeral.digits v.micro.toNat
  patch := if v.patch = 0 then none else some (Numeral.digits v.patch.toNat)
  words := by
    intro digits member
    simp only [List.mem_cons, Option.mem_toList, Option.ite_none_left_eq_some, Option.some.injEq] at member
    rcases member with rfl | rfl | rfl | ⟨-, rfl⟩ <;> exact (Numeral.digits_denotes _).isWord

theorem printed_text (marked : Bool) (v : Version) :
    (printed marked v).text = (if marked then "v" else "") ++ v.display := by
  have shown : (printed marked v).numerals = v.shown.map fun part => Numeral.digits part.toNat := by
    unfold numerals printed Version.shown parts
    split <;> rfl
  rw [← String.toList_inj, text, String.toList_ofList, shown, ← v.display_toList, String.toList_append]
  unfold printed
  cases marked <;> rfl

theorem printed_version (marked : Bool) (v : Version) : (printed marked v).version = v := by
  have back (n : UInt32) : Numeral.word (Numeral.digits n.toNat) = n :=
    (Numeral.digits_denotes n).word_eq
  unfold version printed
  by_cases whole : v.patch = 0
  · simp only [back, if_pos whole, Option.elim_none]
    rw [← whole]
  · simp only [back, if_neg whole, Option.elim_some]

end Spelling

/-- Numerals of three components, or of four, are those of a spelling. -/
theorem exists_numerals {pieces : List (List Char)} {v : Version} (marked : Bool)
    (denoted : List.Forall₂ Numeral.Denotes pieces v.parts ∨
      v.patch = 0 ∧ List.Forall₂ Numeral.Denotes pieces [v.major, v.minor, v.micro]) :
    ∃ spelling : Spelling, spelling.marked = marked ∧ spelling.numerals = pieces ∧
      spelling.version = v := by
  rcases denoted with four | ⟨whole, three⟩
  · simp only [parts, List.forall₂_cons_right_iff, List.forall₂_nil_right_iff] at four
    obtain ⟨a, _, major, ⟨b, _, minor, ⟨c, _, micro, ⟨d, _, patch, rfl, rfl⟩, rfl⟩, rfl⟩, rfl⟩ := four
    have words : ∀ digits ∈ [a, b, c, d], Numeral.IsWord digits := by
      simp only [List.forall_mem_cons]
      exact ⟨major.isWord, minor.isWord, micro.isWord, patch.isWord, List.forall_mem_nil _⟩
    refine ⟨⟨marked, a, b, c, some d, words⟩, rfl, rfl, ?_⟩
    rw [Spelling.version, major.word_eq, minor.word_eq, micro.word_eq, Option.elim_some, patch.word_eq]
  · simp only [List.forall₂_cons_right_iff, List.forall₂_nil_right_iff] at three
    obtain ⟨a, _, major, ⟨b, _, minor, ⟨c, _, micro, rfl, rfl⟩, rfl⟩, rfl⟩ := three
    have words : ∀ digits ∈ [a, b, c], Numeral.IsWord digits := by
      simp only [List.forall_mem_cons]
      exact ⟨major.isWord, minor.isWord, micro.isWord, List.forall_mem_nil _⟩
    refine ⟨⟨marked, a, b, c, none, words⟩, rfl, rfl, ?_⟩
    rw [Spelling.version, major.word_eq, minor.word_eq, micro.word_eq, Option.elim_none, ← whole]

/-- What is read was spelled. -/
theorem exists_spelling {s : String} {v : Version} (found : read? s = some v) :
    ∃ spelling : Spelling, spelling.text = s ∧ spelling.version = v := by
  unfold read? at found
  generalize cut : (Text.strip? ['v'] s.toList).getD s.toList = body at found
  obtain ⟨marked, whole⟩ : ∃ marked : Bool, s.toList = (if marked then ['v'] else []) ++ body := by
    cases front : Text.strip? ['v'] s.toList with
    | none => exact ⟨false, by rw [← cut, front]; rfl⟩
    | some rest => exact ⟨true, by rw [← cut, front]; exact Text.strip?_eq_some.1 front⟩
  have joined : ['.'].intercalate (Text.fields '.' body) = body := Text.intercalate_fields body
  dsimp only at found
  have denoted : List.Forall₂ Numeral.Denotes (Text.fields '.' body) v.parts ∨
      v.patch = 0 ∧ List.Forall₂ Numeral.Denotes (Text.fields '.' body) [v.major, v.minor, v.micro] := by
    split at found
    · next read =>
      cases found
      exact .inr ⟨rfl, Numeral.mapM_read?_eq_some_iff.1 read⟩
    · next read =>
      cases found
      exact .inl (Numeral.mapM_read?_eq_some_iff.1 read)
    · cases found
  obtain ⟨spelling, mark, numerals, version⟩ := exists_numerals marked denoted
  refine ⟨spelling, ?_, version⟩
  rw [Spelling.text, mark, numerals, joined, ← whole, String.ofList_toList]

theorem parse_eq_ok_iff {s : String} {v : Version} :
    parse s = .ok v ↔ ∃ spelling : Spelling, spelling.text = s ∧ spelling.version = v := by
  constructor
  · intro accepted
    unfold parse at accepted
    split at accepted
    · next found =>
      cases accepted
      exact exists_spelling found
    · cases accepted
  · rintro ⟨spelling, rfl, rfl⟩
    rw [parse, spelling.read?_text]

theorem parse_eq_error_iff {s : String} :
    parse s = .error (.invalidVersion s) ↔ ¬ ∃ spelling : Spelling, spelling.text = s := by
  constructor
  · rintro refused ⟨spelling, same⟩
    rw [parse_eq_ok_iff.2 ⟨spelling, same, rfl⟩] at refused
    cases refused
  · intro unspelled
    unfold parse
    split
    · next found =>
      obtain ⟨spelling, same, -⟩ := exists_spelling found
      exact absurd ⟨spelling, same⟩ unspelled
    · rfl

/-- Exactly the spellings of a version are read as it, and any other text is refused. A version is read
back from what it prints, also behind a `v`, so no two versions print alike, are installed under one name
or are looked up under one tag. -/
theorem parse_spelling :
    (∀ s v, parse s = .ok v ↔ ∃ spelling : Spelling, spelling.text = s ∧ spelling.version = v) ∧
    (∀ s, parse s = .error (.invalidVersion s) ↔ ¬ ∃ spelling : Spelling, spelling.text = s) ∧
    (∀ v, parse v.display = .ok v ∧ parse ("v" ++ v.display) = .ok v) ∧
    Function.Injective display ∧ Function.Injective directoryName ∧
    Function.Injective Release.taggedPath := by
  have printed (marked : Bool) (v : Version) :
      parse ((if marked then "v" else "") ++ v.display) = .ok v :=
    parse_eq_ok_iff.2 ⟨.printed marked v, Spelling.printed_text marked v, Spelling.printed_version marked v⟩
  have plain (v : Version) : parse v.display = .ok v := by
    have unmarked := printed false v
    rwa [if_neg Bool.false_ne_true, String.empty_append] at unmarked
  have injective : Function.Injective display := by
    intro v w same
    have read := plain v
    rw [same, plain w] at read
    exact (Except.ok.inj read).symm
  refine ⟨fun _ _ => parse_eq_ok_iff, fun _ => parse_eq_error_iff, fun v => ⟨plain v, printed true v⟩,
    injective, fun v w same => ?_, fun v w same => ?_⟩
  · exact injective ((String.append_right_inj _).1 same)
  · exact injective ((String.append_right_inj _).1 same)

-- Leading zeros and an explicit patch number of zero are spellings too; a second `v` and a sign are not.
example : read? "v01.7.2308.0" = some ⟨1, 7, 2308, 0⟩ ∧ read? "vv1.7.2308" = none ∧ read? "1.7.+3" = none := by
  decide +kernel

end Version

end ShaderDriver
