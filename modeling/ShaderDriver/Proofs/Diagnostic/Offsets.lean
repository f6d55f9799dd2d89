import ShaderDriver.Proofs.Diagnostic.Pieces
import ShaderDriver.Proofs.Diagnostic.Spans

namespace ShaderDriver

open Offset

/-- The text that a span covers, found by its ends. -/
def Span.view? (limit : Nat) (text : String) (span : Span) : Option String := do
  let stop ← add? limit span.offset span.length
  String.ofList <$> slice? span.offset stop text.toList

def Message.path? (limit : Nat) (m : Message) : Option (Option String) :=
  m.location.mapM fun location => location.path.view? limit m.text

def Message.bodyText? (limit : Nat) (m : Message) : Option (Option String) :=
  m.body.mapM (Span.view? limit m.text)

namespace Diagnostic

section Reader

variable (limit : Nat)

/-- The first line of a text, with its ending, and the text behind it. -/
def nextLine? (cs : List Char) : Option (List Char × List Char) :=
  match findIf isLineEnd cs with
  | none => cut? (Utf8.size cs) cs
  | some offset => do
    let rest ← behind? offset cs
    let width := if (Text.strip? ['\r', '\n'] rest).isSome then 2 else 1
    let stop ← add? limit offset width
    cut? stop cs

/-- The lines of a text, read one by one. -/
def lines? (cs : List Char) : Option (List (List Char)) :=
  if cs = [] then some []
  else
    match nextLine? limit cs with
    | none => none
    | some (line, rest) =>
      -- Always so, by `nextLine?_eq`: a line is not empty.
      if rest.length < cs.length then (lines? rest).map (line :: ·) else none
termination_by cs.length

/-- The pieces of a text whose lines are read one by one. The current piece goes from `start` up to
`offset`, where the next line starts. -/
def pieces? (text : List Char) : (start offset : Nat) → List (List Char) → Option (List (List Char))
  | start, _, [] => do
    let piece ← behind? start text
    pure [piece]
  | start, offset, line :: rows => do
    let next ← add? limit offset (Utf8.size line)
    if start < offset && !continuesBlock line then
      let piece ← slice? start offset text
      let pieces ← pieces? text offset next rows
      pure (piece :: pieces)
    else pieces? text start next rows

def blocks? (cs : List Char) : Option (List (List Char)) := do
  let rows ← lines? limit cs
  let pieces ← pieces? limit cs 0 0 rows
  pure ((pieces.map (Text.trimEnd isLineEnd)).filter fun block => !block.all isBlank)

/-- Reads `path:line` or `path:line:column` from the text up to `stop`. -/
def location? (text : List Char) (stop : Nat) : Option (Option Location) := do
  let front ← before? stop text
  match findLast ':' front with
  | none => pure none
  | some lastColon =>
    let lastStart ← add? limit lastColon 1
    let last ← behind? lastStart front
    match Numeral.read? last with
    | none => pure none
    | some lastNumber =>
      let before ← before? lastColon front
      let lineColon := findLast ':' before
      let tokenStart ← match lineColon with
        | none => pure 0
        | some colon => add? limit colon 1
      let token ← behind? tokenStart before
      if Numeral.isNumeral token then
        pure do
          let colon ← lineColon
          let line ← Numeral.read? token
          pure ⟨⟨0, colon⟩, line, some lastNumber⟩
      else pure (some ⟨⟨0, lastColon⟩, lastNumber, none⟩)

/-- Keeps a span that ends within the text. -/
def store? (text : List Char) (span : Span) : Option Span := do
  let stop ← add? limit span.offset span.length
  if stop ≤ Utf8.size text then pure span else none

def message? (text : List Char) (location : Option Location) (severity : Severity)
    (body : Option Span) : Option Message := do
  let _ ← location.mapM fun location => store? limit text location.path
  let body ← body.mapM (store? limit text)
  pure ⟨String.ofList text, location, severity, body⟩

/-- Reads severity and body from the text behind `start`. -/
def sections? (text : List Char) (location : Option Location) (start : Nat) : Option Message := do
  let rest ← behind? start text
  match find separator rest with
  | none => message? limit text location .unknown none
  | some offset =>
    let labelStop ← add? limit start offset
    let label ← slice? start labelStop text
    let bodyStart ← add? limit labelStop (Utf8.size separator)
    if bodyStart < Utf8.size text then
      let length ← sub? (Utf8.size text) bodyStart
      message? limit text location (Severity.ofSection label) (some ⟨bodyStart, length⟩)
    else message? limit text location (Severity.ofSection label) none

def block? (text : List Char) : Option Message :=
  match find separator text with
  | none => pure (.unstructured (String.ofList text))
  | some stop => do
    let first ← before? stop text
    if endsInDigit first then
      match ← location? limit text stop with
      | none => pure (.unstructured (String.ofList text))
      | some location =>
        let start ← add? limit stop (Utf8.size separator)
        sections? limit text (some location) start
    else sections? limit text none 0

/-- A second reader of outputs, which finds every part by offsets no larger than `limit`. It stops without a
result where an addition passes the limit, a subtraction falls below zero, or a cut hits the inside of a
character. -/
def parse? (output : String) : Option (List Message) := do
  let blocks ← blocks? limit output.toList
  blocks.mapM (block? limit)

end Reader

section Lines

variable {limit : Nat} {cs : List Char}

/-- A text without line ends in front of another one belongs to its first line. -/
theorem lines_inline_append {front behind : List Char} (inline : ∀ c ∈ front, isLineEnd c = false)
    (some : front ++ behind ≠ []) :
    lines (front ++ behind) = (front ++ (lines behind).headD []) :: (lines behind).tail := by
  induction front with
  | nil =>
    obtain ⟨line, rows, cut⟩ := List.exists_cons_of_ne_nil (mt lines_eq_nil_iff.1 some)
    rw [List.nil_append] at cut
    rw [List.nil_append, cut]
    rfl
  | cons c front ih =>
    obtain ⟨plain, inline⟩ := List.forall_mem_cons.1 inline
    have plain : ¬ (c = '\r' ∨ c = '\n') := by simpa [isLineEnd] using plain
    rw [List.cons_append, lines_of_plain plain]
    by_cases last : front ++ behind = []
    · obtain ⟨rfl, rfl⟩ := List.append_eq_nil_iff.1 last
      rfl
    · rw [ih inline last]
      rfl

/-- Where a text starts with a line end, that is its first line. -/
theorem lines_ending {c : Char} (ended : isLineEnd c = true) (tail : List Char) :
    ∃ ending rest, c :: tail = ending ++ rest ∧ ending ≠ [] ∧
      lines (c :: tail) = ending :: lines rest ∧
      Utf8.size ending = if (Text.strip? ['\r', '\n'] (c :: tail)).isSome then 2 else 1 := by
  have ended : c = '\r' ∨ c = '\n' := by simpa [isLineEnd] using ended
  cases pair : Text.strip? ['\r', '\n'] (c :: tail) with
  | some rest =>
    have joined := Text.strip?_eq_some.1 pair
    exact ⟨['\r', '\n'], rest, joined, by simp, by rw [joined]; rfl, rfl⟩
  | none =>
    refine ⟨[c], tail, rfl, by simp, lines_of_isLineEnd ended ?_, ?_⟩
    · rintro rfl feed
      obtain ⟨rest, rfl⟩ := List.head?_eq_some_iff.1 feed
      cases pair
    · rcases ended with rfl | rfl <;> rfl

/-- The next line is the first one, and not empty. -/
theorem nextLine?_eq (nonempty : cs ≠ []) (fits : Utf8.size cs ≤ limit) :
    ∃ line rest, nextLine? limit cs = some (line, rest) ∧ lines cs = line :: lines rest ∧
      cs = line ++ rest ∧ line ≠ [] := by
  rcases findIf_cases isLineEnd cs with ⟨missing, inline⟩ | ⟨front, c, tail, rfl, inline, ended, found⟩
  · have cut := cut?_append cs []
    have whole : lines (cs ++ []) = (cs ++ []) :: [] := lines_inline_append inline (by simpa using nonempty)
    rw [List.append_nil] at cut whole
    refine ⟨cs, [], ?_, by rw [whole, lines], (List.append_nil cs).symm, nonempty⟩
    rw [nextLine?, missing]
    exact cut
  · obtain ⟨ending, rest, joined, some, cut, width⟩ := lines_ending ended tail
    have whole := lines_inline_append inline nonempty
    rw [cut] at whole
    have inside : Utf8.size front + Utf8.size ending ≤ limit := by
      rw [joined, Utf8.size_append, Utf8.size_append] at fits
      omega
    refine ⟨front ++ ending, rest, ?_, whole, by rw [joined, List.append_assoc], by simp [some]⟩
    have stop := add?_eq inside
    rw [width] at stop
    rw [nextLine?, found]
    simp only [behind?_append, stop, Option.bind_eq_bind, Option.bind_some]
    rw [← width, ← Utf8.size_append, joined, ← List.append_assoc]
    exact cut?_append (front ++ ending) rest

theorem lines?_eq (fits : Utf8.size cs ≤ limit) : lines? limit cs = some (lines cs) := by
  induction size : cs.length using Nat.strong_induction_on generalizing cs with
  | _ length ih =>
    rw [lines?]
    split
    · next empty => rw [empty, lines]
    · next nonempty =>
      obtain ⟨line, rest, next, cut, rfl, some⟩ := nextLine?_eq nonempty fits
      have shorter : rest.length < (line ++ rest).length := by
        have := List.length_pos_iff.2 some
        rw [List.length_append]
        omega
      have fits : Utf8.size rest ≤ limit := by
        rw [Utf8.size_append] at fits
        omega
      rw [next]
      simp only [if_pos shorter, ih rest.length (size ▸ shorter) fits rfl, Option.map_some, cut]

end Lines

section Blocks

variable {limit : Nat}

theorem gather_opening {line : List Char} (opening : continuesBlock line = false) (piece : List Char)
    (rows : List (List Char)) : gather (piece :: line :: rows) = piece :: gather (line :: rows) := by
  rw [gather]
  simp [opening]

theorem gather_continuing {line : List Char} (continues : continuesBlock line = true)
    (piece : List Char) (rows : List (List Char)) :
    gather (piece :: line :: rows) = gather ((piece ++ line) :: rows) := by
  rw [gather, gather]
  simp [continues]

/-- Reading on from a started piece gathers it with the lines that continue it. -/
theorem pieces?_eq {text : List Char} (fits : Utf8.size text ≤ limit) {rows : List (List Char)}
    (full : [] ∉ rows) {front piece : List Char} (started : piece ≠ [])
    (joined : text = front ++ piece ++ rows.flatten) :
    pieces? limit text (Utf8.size front) (Utf8.size (front ++ piece)) rows =
      some (gather (piece :: rows)) := by
  induction rows generalizing front piece with
  | nil =>
    rw [List.flatten_nil, List.append_nil] at joined
    rw [pieces?, joined, behind?_append]
    simp [gather]
  | cons line rows ih =>
    have before : Utf8.size front < Utf8.size (front ++ piece) := by
      have := Utf8.size_pos_iff.2 started
      rw [Utf8.size_append]
      omega
    have next : add? limit (Utf8.size (front ++ piece)) (Utf8.size line) =
        some (Utf8.size (front ++ piece ++ line)) := by
      rw [Utf8.size_append (front ++ piece)]
      refine add?_eq ?_
      rw [joined, List.flatten_cons, Utf8.size_append, Utf8.size_append line] at fits
      omega
    obtain ⟨nonempty, full⟩ := not_or.1 (mt List.mem_cons.2 full)
    rw [List.flatten_cons, ← List.append_assoc] at joined
    simp only [pieces?, next, Option.bind_eq_bind, Option.bind_some]
    cases continues : continuesBlock line with
    | false =>
      have sliced := slice?_append front piece (line ++ rows.flatten)
      rw [← List.append_assoc, ← joined, ← Utf8.size_append] at sliced
      have later := ih full (Ne.symm nonempty) joined
      rw [if_pos (by simp only [before, decide_true, Bool.not_false, Bool.and_self]), sliced, later,
        gather_opening continues]
      rfl
    | true =>
      have extended : text = front ++ (piece ++ line) ++ rows.flatten := by
        rw [joined, ← List.append_assoc front]
      have later := ih full (List.append_ne_nil_of_left_ne_nil started line) extended
      rw [if_neg (by simp only [Bool.not_true, Bool.and_false, Bool.false_eq_true, not_false_eq_true]),
        List.append_assoc, later, gather_continuing continues]

theorem blocks?_eq {cs : List Char} (fits : Utf8.size cs ≤ limit) :
    blocks? limit cs = some (blocks cs) := by
  rw [blocks?, lines?_eq fits, blocks]
  cases cut : lines cs with
  | nil =>
    obtain rfl := lines_eq_nil_iff.1 cut
    simp [pieces?, behind?, cut?, gather, Text.trimEnd]
  | cons line rows =>
    have joined : cs = [] ++ line ++ rows.flatten := by rw [← flatten_lines cs, cut]; rfl
    obtain ⟨nonempty, full⟩ := not_or.1 (mt List.mem_cons.2 (cut ▸ nil_not_mem_lines cs))
    have inside : 0 + Utf8.size line ≤ limit := by
      rw [joined, Utf8.size_append, List.nil_append] at fits
      omega
    have first := add?_eq inside
    rw [Nat.zero_add] at first
    have gathered := pieces?_eq fits full (Ne.symm nonempty) joined
    simp only [List.nil_append, Utf8.size_nil] at gathered
    simp [pieces?, first, gathered]

end Blocks

section Sections

variable {limit : Nat}

theorem location?_eq {front : List Char} (fits : Utf8.size front ≤ limit) (after : List Char) :
    location? limit (front ++ after) (Utf8.size front) = some (readLocation front) := by
  have colon : ':'.utf8Size = 1 := rfl
  cases outer : Text.splitLast ':' front with
  | none => simp [location?, before?_append, findLast_eq_none outer, readLocation, outer]
  | some pieces =>
    obtain ⟨before, last⟩ := pieces
    rw [size_splitLast colon outer] at fits
    have lastStart : add? limit (Utf8.size before) 1 = _ := add?_eq (by omega)
    cases number : Numeral.read? last with
    | none =>
      simp [location?, before?_append, findLast_eq_some outer, lastStart, behind?_splitLast colon outer,
        readLocation, outer, number]
    | some lastNumber =>
      simp only [location?, before?_append, findLast_eq_some outer, lastStart, behind?_splitLast colon outer,
        before?_splitLast outer, number, readLocation, outer, Option.bind_eq_bind, Option.bind_some]
      cases inner : Text.splitLast ':' before with
      | none =>
        have whole := behind?_append [] before
        rw [List.nil_append, Utf8.size_nil] at whole
        simp only [findLast_eq_none inner, pure, Option.bind_some, whole]
        split <;> rfl
      | some pieces =>
        obtain ⟨path, token⟩ := pieces
        rw [size_splitLast colon inner] at fits
        have tokenStart : add? limit (Utf8.size path) 1 = _ := add?_eq (by omega)
        simp only [findLast_eq_some inner, tokenStart, behind?_splitLast colon inner, pure,
          Option.bind_some]
        split <;> rfl

theorem store?_eq {text : List Char} {span : Span} (fits : Utf8.size text ≤ limit)
    (inside : span.stop ≤ Utf8.size text) : store? limit text span = some span := by
  have stop : add? limit span.offset span.length = some span.stop := add?_eq (inside.trans fits)
  rw [store?, stop]
  exact if_pos inside

theorem message?_eq {text : List Char} {location : Option Location} {severity : Severity}
    {body : Option Span} (fits : Utf8.size text ≤ limit)
    (path : ∀ l ∈ location, l.path.stop ≤ Utf8.size text)
    (stop : ∀ span ∈ body, span.stop ≤ Utf8.size text) :
    message? limit text location severity body =
      some ⟨String.ofList text, location, severity, body⟩ := by
  have located : ∃ paths, location.mapM (fun l => store? limit text l.path) = some paths := by
    cases location with
    | none => exact ⟨none, rfl⟩
    | some l => exact ⟨some l.path, by simp [store?_eq fits (path l rfl)]⟩
  have kept : body.mapM (store? limit text) = some body := by
    cases body with
    | none => rfl
    | some span => simp [store?_eq fits (stop span rfl)]
  obtain ⟨paths, located⟩ := located
  rw [message?, located, kept]
  rfl

/-- Sections behind the offset `Utf8.size front`, where the rest of the text starts. -/
theorem sections?_eq {front rest : List Char} {location : Option Location}
    (fits : Utf8.size (front ++ rest) ≤ limit)
    (path : ∀ l ∈ location, l.path.stop ≤ Utf8.size (front ++ rest)) :
    sections? limit (front ++ rest) location (Utf8.size front) =
      some (readSections (front ++ rest) location (Utf8.size front) rest) := by
  simp only [sections?, readSections, behind?_append, Option.bind_eq_bind, Option.bind_some]
  cases split : Text.splitFirst separator rest with
  | none =>
    simp only [find_eq_none split]
    exact message?_eq fits path (by simp)
  | some pieces =>
    obtain ⟨label, body⟩ := pieces
    have found := find_eq_some split
    obtain rfl := Text.splitFirst_join split
    have whole : Utf8.size (front ++ (label ++ separator ++ body)) =
        Utf8.size front + Utf8.size label + Utf8.size separator + Utf8.size body := by
      simp only [Utf8.size_append]
      omega
    have labelStop : add? limit (Utf8.size front) (Utf8.size label) = _ := add?_eq (by omega)
    have bodyStart : add? limit (Utf8.size front + Utf8.size label) (Utf8.size separator) = _ :=
      add?_eq (by omega)
    have sliced := slice?_append front label (separator ++ body)
    rw [List.append_assoc, ← List.append_assoc label] at sliced
    simp only [found, labelStop, sliced, bodyStart, Option.bind_some]
    by_cases empty : body = []
    · subst empty
      rw [if_neg (by rw [whole, Utf8.size_nil, Nat.add_zero]; exact lt_irrefl _)]
      exact message?_eq fits path (by simp)
    · have more := Utf8.size_pos_iff.2 empty
      rw [if_pos (by omega), if_neg (by simpa using empty), whole, sub?_eq, Option.bind_some]
      refine message?_eq fits path ?_
      rintro span ⟨⟩
      exact whole.ge

theorem block?_eq {text : List Char} (fits : Utf8.size text ≤ limit) :
    block? limit text = some (readBlock text) := by
  cases split : Text.splitFirst separator text with
  | none =>
    simp only [block?, readBlock, find_eq_none split, split]
    rfl
  | some pieces =>
    obtain ⟨first, rest⟩ := pieces
    have found := find_eq_some split
    have within := (reads_readBlock text).path_within
    obtain rfl := Text.splitFirst_join split
    have cut := before?_append first (separator ++ rest)
    have width := Utf8.size_append (first ++ separator) rest
    rw [Utf8.size_append first] at width
    rw [← List.append_assoc] at cut
    simp only [readBlock, split] at within ⊢
    simp only [block?, found, cut, Option.bind_eq_bind, Option.bind_some]
    by_cases digit : endsInDigit first = true
    · have small : Utf8.size first ≤ limit := by omega
      have located := location?_eq small (separator ++ rest)
      rw [← List.append_assoc] at located
      simp only [if_pos digit, located, Option.bind_some] at within ⊢
      cases read : readLocation first with
      | none => rfl
      | some location =>
        have start : add? limit (Utf8.size first) (Utf8.size separator) = _ := add?_eq (by omega)
        simp only [read, readSections_location] at within
        simp only [start, Option.bind_some]
        rw [← Utf8.size_append]
        exact sections?_eq fits fun l same => (within l same).stop_le
    · rw [if_neg digit, if_neg digit]
      have whole : Utf8.size ([] ++ (first ++ separator ++ rest)) ≤ limit := fits
      exact sections?_eq whole (by simp)

theorem mapM_block?_eq {list : List (List Char)} (fits : ∀ block ∈ list, Utf8.size block ≤ limit) :
    list.mapM (block? limit) = some (list.map readBlock) := by
  induction list with
  | nil => rfl
  | cons block list ih =>
    obtain ⟨first, others⟩ := List.forall_mem_cons.1 fits
    rw [List.mapM_cons, block?_eq first, ih others]
    rfl

end Sections

section Messages

variable {limit : Nat} {text output : String}

theorem view?_eq {span : Span} (fits : text.utf8ByteSize ≤ limit) (within : span.Within text.toList) :
    span.view? limit text = some (String.ofList (span.slice text.toList)) := by
  have inside := within.stop_le
  rw [Utf8.size_toList] at inside
  obtain ⟨before, covered, after, joined, rfl⟩ := within
  have stop : add? limit (Utf8.size before) (Utf8.size covered) = _ := add?_eq (inside.trans fits)
  rw [Span.view?, stop, joined, Span.slice_append]
  simp only [Option.bind_eq_bind, Option.bind_some, slice?_append]
  rfl

theorem size_of_mem_blocks {cs block : List Char} (member : block ∈ blocks cs) :
    Utf8.size block ≤ Utf8.size cs := by
  rw [blocks_eq, List.mem_map] at member
  obtain ⟨piece, member, rfl⟩ := member
  obtain ⟨ending, joined, _⟩ := (trimEnd_trimmed piece).joined
  have front : Text.trimEnd isLineEnd piece <+: piece := ⟨ending, joined.symm⟩
  have inside := List.sublist_flatten_of_mem (List.mem_filter.1 member).1
  rw [flatten_gather, flatten_lines] at inside
  exact Utf8.size_le_of_sublist (front.sublist.trans inside)

theorem parse?_eq (fits : output.utf8ByteSize ≤ limit) :
    parse? limit output = some (parse output) := by
  rw [← Utf8.size_toList] at fits
  rw [parse?, blocks?_eq fits, parse]
  exact mapM_block?_eq fun block member => (size_of_mem_blocks member).trans fits

/-- The spans of every message lie in its text, between characters: the path at the start, the body at the
end and behind it. An output of at most `limit` octets is read by offsets that never pass `limit`, and so
are the path and the body of its messages, the only parts that are cut out of their texts. -/
theorem parse_spans_valid (output : String) :
    (∀ m ∈ parse output, m.SpansValid) ∧
      ∀ limit, output.utf8ByteSize ≤ limit →
        parse? limit output = some (parse output) ∧
          ∀ m ∈ parse output, m.path? limit = some m.path ∧ m.bodyText? limit = some m.bodyText := by
  refine ⟨fun m member => ?_, fun limit fits => ⟨parse?_eq fits, fun m member => ?_⟩⟩
  · obtain ⟨block, _, rfl⟩ := List.mem_map.1 member
    exact (reads_readBlock block).spansValid
  · obtain ⟨block, listed, rfl⟩ := List.mem_map.1 member
    have reads := reads_readBlock block
    have kept := toList_readBlock block
    have small : (readBlock block).text.utf8ByteSize ≤ limit := by
      rw [← Utf8.size_toList, kept]
      exact (size_of_mem_blocks listed).trans (Utf8.size_toList output ▸ fits)
    rw [Message.path?, Message.path, Message.bodyText?, Message.bodyText]
    constructor
    · cases found : (readBlock block).location with
      | none => rfl
      | some location =>
        simp [view?_eq small (kept.symm ▸ reads.path_within location found)]
    · cases found : (readBlock block).body with
      | none => rfl
      | some span =>
        simp [view?_eq small (kept.symm ▸ reads.body_within span found)]

-- The limit is met exactly, and with one octet less the output is not read to its end.
theorem parse_spans_valid_accented :
    let output := "é.hlsl:3: Error: ÿ\n"
    let m : Message := ⟨"é.hlsl:3: Error: ÿ", some ⟨⟨0, 7⟩, 3, none⟩, .error, some ⟨18, 2⟩⟩
    m ∈ parse output ∧ m.SpansValid ∧ output.utf8ByteSize = 21 ∧
      parse? 21 output = some (parse output) ∧ parse? 20 output = none ∧
      m.path? 21 = some (some "é.hlsl") ∧ m.bodyText? 21 = some (some "ÿ") := by
  have listed : (⟨"é.hlsl:3: Error: ÿ", some ⟨⟨0, 7⟩, 3, none⟩, .error, some ⟨18, 2⟩⟩ : Message) ∈
      parse "é.hlsl:3: Error: ÿ\n" := by decide +kernel
  obtain ⟨valid, reads⟩ := parse_spans_valid "é.hlsl:3: Error: ÿ\n"
  obtain ⟨read, accessors⟩ := reads 21 (by decide +kernel)
  obtain ⟨path, body⟩ := accessors _ listed
  refine ⟨listed, valid _ listed, by decide +kernel, read, by decide +kernel, ?_, ?_⟩
  · rw [path]
    decide +kernel
  · rw [body]
    decide +kernel

end Messages

end Diagnostic

end ShaderDriver
