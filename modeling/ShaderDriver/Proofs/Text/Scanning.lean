import Mathlib.Data.List.Forall2
import Mathlib.Data.List.TakeWhile
import ShaderDriver.Text.Scan

namespace ShaderDriver.Scan

section Runs

variable {α β : Type} {p q : Scan α} {cs left : List Char}

theorem bind_eq_some {f : α → Scan β} {b : β} : (p >>= f) cs = some (b, left) ↔
    ∃ a middle, p cs = some (a, middle) ∧ f a middle = some (b, left) := by
  change (p cs).bind (fun found => f found.1 found.2) = _ ↔ _
  rw [Option.bind_eq_some_iff, Prod.exists]

theorem pure_eq_some {a b : α} : (pure a : Scan α) cs = some (b, left) ↔ a = b ∧ cs = left := by
  change some (a, cs) = _ ↔ _
  rw [Option.some.injEq, Prod.mk.injEq]

theorem map_eq_some {f : α → β} {b : β} : (f <$> p) cs = some (b, left) ↔
    ∃ a, p cs = some (a, left) ∧ f a = b := by
  have same : f <$> p = p >>= fun a => pure (f a) := map_eq_pure_bind f p
  rw [same, bind_eq_some]
  simp only [pure_eq_some]
  constructor
  · rintro ⟨a, middle, found, same, rfl⟩
    exact ⟨a, found, same⟩
  · rintro ⟨a, found, same⟩
    exact ⟨a, left, found, same, rfl⟩

theorem map_eq_none_iff {f : α → β} : (f <$> p) cs = none ↔ p cs = none := by
  change (p cs).bind (fun found => some (f found.1, found.2)) = none ↔ _
  cases p cs <;> simp

theorem orElse_eq_some {a : α} : (p <|> q) cs = some (a, left) ↔
    p cs = some (a, left) ∨ p cs = none ∧ q cs = some (a, left) := by
  change (p cs <|> q cs) = _ ↔ _
  cases p cs <;> simp

theorem orElse_of_eq_none (missing : p cs = none) : (p <|> q) cs = q cs := by
  change (p cs <|> q cs) = q cs
  rw [missing]
  rfl

theorem failure_eq_some {a : α} : ¬ (failure : Scan α) cs = some (a, left) := nofun

theorem next_eq_some {c : Char} : next cs = some (c, left) ↔ cs = c :: left := by
  cases cs <;> simp [next]

theorem satisfy_eq_some {accepts : Char → Bool} {c : Char} :
    satisfy accepts cs = some (c, left) ↔ cs = c :: left ∧ accepts c = true := by
  cases cs with
  | nil => simp [satisfy]
  | cons first rest =>
    by_cases accepted : accepts first = true
    · simp only [satisfy, if_pos accepted, Option.some.injEq, Prod.mk.injEq, List.cons.injEq]
      constructor
      · rintro ⟨rfl, same⟩
        exact ⟨⟨rfl, same⟩, accepted⟩
      · rintro ⟨same, -⟩
        exact same
    · simp only [satisfy, if_neg accepted, reduceCtorEq, List.cons.injEq, false_iff, not_and]
      rintro ⟨rfl, -⟩
      exact accepted

theorem char_eq_some {c : Char} {u : Unit} : char c cs = some (u, left) ↔ cs = c :: left := by
  unfold char
  simp only [bind_eq_some, satisfy_eq_some, pure_eq_some, beq_iff_eq]
  constructor
  · rintro ⟨_, _, ⟨whole, rfl⟩, -, rfl⟩
    exact whole
  · intro whole
    exact ⟨c, left, ⟨whole, rfl⟩, trivial, rfl⟩

theorem literal_eq_some {s : String} {u : Unit} :
    literal s cs = some (u, left) ↔ cs = s.toList ++ left := by
  unfold literal
  simp only [Option.map_eq_some_iff, Prod.mk.injEq, Text.strip?_eq_some]
  constructor
  · rintro ⟨_, whole, -, rfl⟩
    exact whole
  · intro whole
    exact ⟨left, whole, trivial, rfl⟩

theorem run_eq_some {accepts : Char → Bool} {taken : List Char} :
    run accepts cs = some (taken, left) ↔ cs = taken ++ left ∧ (∀ c ∈ taken, accepts c = true) ∧
      ∀ c rest, left = c :: rest → accepts c = false := by
  unfold run
  rw [Option.some.injEq, Prod.mk.injEq]
  constructor
  · rintro ⟨rfl, rfl⟩
    refine ⟨List.takeWhile_append_dropWhile.symm, fun c member => List.mem_takeWhile_imp member, ?_⟩
    intro c rest stopped
    have stop := List.head?_dropWhile_not accepts cs
    rw [stopped] at stop
    exact stop
  · rintro ⟨rfl, all, stops⟩
    rw [List.takeWhile_append_of_pos all, List.dropWhile_append_of_pos all]
    cases left with
    | nil => simp
    | cons c rest => simp [stops c rest rfl]

theorem exactly_eq_some {n : Nat} {accepts : Char → Bool} {taken : List Char} :
    exactly n accepts cs = some (taken, left) ↔
      cs = taken ++ left ∧ taken.length = n ∧ taken.all accepts = true := by
  unfold exactly
  simp only [Option.ite_none_right_eq_some, Option.some.injEq, Prod.mk.injEq]
  constructor
  · rintro ⟨⟨length, all⟩, rfl, rfl⟩
    exact ⟨(List.take_append_drop n cs).symm, length, all⟩
  · rintro ⟨rfl, rfl, all⟩
    simp [all]

theorem ended_eq_some {u : Unit} : ended cs = some (u, left) ↔ cs = [] ∧ left = [] := by
  cases cs <;> simp [ended, eq_comm]

theorem whole_eq_some {s : String} {a : α} : whole p s = some a ↔ p s.toList = some (a, []) := by
  unfold whole
  rw [Option.map_eq_some_iff]
  constructor
  · rintro ⟨⟨b, left⟩, ran, rfl⟩
    obtain ⟨c, middle, found, rest⟩ := bind_eq_some.1 ran
    obtain ⟨_, _, last, result⟩ := bind_eq_some.1 rest
    obtain ⟨rfl, -⟩ := pure_eq_some.1 result
    obtain ⟨rfl, -⟩ := ended_eq_some.1 last
    exact found
  · intro found
    exact ⟨(a, []), bind_eq_some.2 ⟨a, [], found, rfl⟩, rfl⟩

end Runs

section Takes

variable {α β : Type} {p q : Scan α}

/-- What is taken is a first part of the text. -/
def Takes (p : Scan α) : Prop :=
  ∀ ⦃cs left : List Char⦄ ⦃a : α⦄, p cs = some (a, left) → ∃ taken, cs = taken ++ left

theorem takes_pure (a : α) : Takes (pure a) := by
  intro cs left b ran
  exact ⟨[], (pure_eq_some.1 ran).2⟩

theorem Takes.bind {f : α → Scan β} (first : Takes p) (next : ∀ a, Takes (f a)) : Takes (p >>= f) := by
  intro cs left b ran
  obtain ⟨a, middle, found, last⟩ := bind_eq_some.1 ran
  obtain ⟨taken, rfl⟩ := first found
  obtain ⟨more, rfl⟩ := next a last
  exact ⟨taken ++ more, (List.append_assoc ..).symm⟩

theorem Takes.map (takes : Takes p) (f : α → β) : Takes (f <$> p) := by
  intro cs left b ran
  obtain ⟨a, found, -⟩ := map_eq_some.1 ran
  exact takes found

theorem Takes.orElse (first : Takes p) (second : Takes q) : Takes (p <|> q) := by
  intro cs left a ran
  rcases orElse_eq_some.1 ran with found | ⟨-, found⟩
  · exact first found
  · exact second found

theorem Takes.optionally (takes : Takes p) : Takes (optionally p) :=
  (takes.map some).orElse (takes_pure none)

/-- A repetition takes one part more, or it ends. -/
theorem upTo_succ_eq_some {count : Nat} {cs left : List Char} {xs : List α}
    (ran : upTo p (count + 1) cs = some (xs, left)) :
    (∃ x ys middle, p cs = some (x, middle) ∧ upTo p count middle = some (ys, left) ∧ xs = x :: ys) ∨
      xs = [] ∧ cs = left := by
  rw [upTo] at ran
  rcases orElse_eq_some.1 ran with found | ⟨-, none⟩
  · obtain ⟨x, middle, first, rest⟩ := bind_eq_some.1 found
    obtain ⟨ys, left', others, last⟩ := bind_eq_some.1 rest
    obtain ⟨same, rfl⟩ := pure_eq_some.1 last
    exact .inl ⟨x, ys, middle, first, others, same.symm⟩
  · obtain ⟨same, whole⟩ := pure_eq_some.1 none
    exact .inr ⟨same.symm, whole⟩

theorem upTo_cons {count : Nat} {cs middle left : List Char} {x : α} {ys : List α}
    (first : p cs = some (x, middle)) (others : upTo p count middle = some (ys, left)) :
    upTo p (count + 1) cs = some (x :: ys, left) :=
  orElse_eq_some.2 (.inl (bind_eq_some.2 ⟨x, middle, first,
    bind_eq_some.2 ⟨ys, left, others, pure_eq_some.2 ⟨rfl, rfl⟩⟩⟩))

theorem upTo_nil {cs : List Char} (missing : p cs = none) (count : Nat) :
    upTo p count cs = some ([], cs) := by
  cases count with
  | zero => rfl
  | succ count =>
    refine orElse_eq_some.2 (.inr ⟨?_, rfl⟩)
    rw [Option.eq_none_iff_forall_ne_some]
    rintro ⟨xs, left⟩ found
    obtain ⟨x, middle, first, -⟩ := bind_eq_some.1 found
    rw [missing] at first
    cases first

theorem Takes.upTo (takes : Takes p) (count : Nat) : Takes (upTo p count) := by
  intro cs left xs ran
  induction count generalizing cs xs with
  | zero => exact ⟨[], (pure_eq_some.1 ran).2⟩
  | succ count ih =>
    rcases upTo_succ_eq_some ran with ⟨x, ys, middle, first, others, rfl⟩ | ⟨-, whole⟩
    · obtain ⟨taken, rfl⟩ := takes first
      obtain ⟨more, rfl⟩ := ih others
      exact ⟨taken ++ more, (List.append_assoc ..).symm⟩
    · exact ⟨[], whole⟩

theorem Takes.many (takes : Takes p) : Takes (many p) := fun cs _ _ ran => takes.upTo cs.length ran

theorem Takes.separated {separator : Scan Unit} (takes : Takes p) (between : Takes separator) :
    Takes (separated p separator) :=
  takes.bind fun _ => (between.bind fun _ => takes).many.bind fun _ => takes_pure _

/-- Before some rest, the scanner takes just this part, for this result. -/
def Covers (p : Scan α) (part : List Char) (a : α) : Prop :=
  ∃ rest, p (part ++ rest) = some (a, rest)

/-- Behind a first part, a repetition takes separators with one more part behind each. -/
theorem parts_of_upTo {c : Char} {count : Nat} {cs left : List Char} {xs : List α} (takes : Takes p)
    (ran : Scan.upTo (do char c; p) count cs = some (xs, left)) (front : List Char) :
    ∃ parts, front ++ cs = [c].intercalate (front :: parts) ++ left ∧ List.Forall₂ (Covers p) parts xs := by
  induction count generalizing cs xs front with
  | zero =>
    obtain ⟨rfl, rfl⟩ := pure_eq_some.1 ran
    exact ⟨[], by rw [List.intercalate_singleton], .nil⟩
  | succ count ih =>
    rcases upTo_succ_eq_some ran with ⟨x, ys, middle, turn, others, rfl⟩ | ⟨rfl, rfl⟩
    · obtain ⟨_, behind, separator, read⟩ := bind_eq_some.1 turn
      obtain rfl := char_eq_some.1 separator
      obtain ⟨part, rfl⟩ := takes read
      obtain ⟨parts, joined, covered⟩ := ih others part
      refine ⟨part :: parts, ?_, .cons ⟨middle, read⟩ covered⟩
      rw [List.intercalate_cons_cons, List.append_assoc, List.append_assoc, ← joined]
      rfl
    · exact ⟨[], by rw [List.intercalate_singleton], .nil⟩

theorem parts_of_separated {c : Char} {cs left : List Char} {xs : List α} (takes : Takes p)
    (ran : Scan.separated p (char c) cs = some (xs, left)) :
    ∃ parts, cs = [c].intercalate parts ++ left ∧ List.Forall₂ (Covers p) parts xs := by
  obtain ⟨x, middle, first, rest⟩ := bind_eq_some.1 ran
  obtain ⟨ys, end', others, last⟩ := bind_eq_some.1 rest
  obtain ⟨rfl, rfl⟩ := pure_eq_some.1 last
  obtain ⟨part, rfl⟩ := takes first
  obtain ⟨parts, joined, covered⟩ := parts_of_upTo takes others part
  exact ⟨part :: parts, joined, .cons ⟨middle, first⟩ covered⟩

end Takes

section Gives

variable {α β : Type} {p q : Scan α} {good : α → Prop}

/-- Every result is of a certain kind. -/
def Gives (good : α → Prop) (p : Scan α) : Prop := ∀ ⦃cs left a⦄, p cs = some (a, left) → good a

theorem gives_pure {a : α} (fits : good a) : Gives good (pure a) := by
  intro cs left b ran
  obtain ⟨rfl, -⟩ := pure_eq_some.1 ran
  exact fits

theorem gives_lift {found : Option α} (fits : ∀ a, found = some a → good a) :
    Gives good (liftM found : Scan α) := by
  cases found with
  | none => nofun
  | some a => exact gives_pure (fits a rfl)

theorem gives_bind (p : Scan β) {f : β → Scan α} (next : ∀ b, Gives good (f b)) : Gives good (p >>= f) := by
  intro cs left a ran
  obtain ⟨b, middle, -, last⟩ := bind_eq_some.1 ran
  exact next b last

theorem gives_map (p : Scan β) {f : β → α} (fits : ∀ b, good (f b)) : Gives good (f <$> p) := by
  intro cs left a ran
  obtain ⟨b, -, rfl⟩ := map_eq_some.1 ran
  exact fits b

theorem Gives.orElse (first : Gives good p) (second : Gives good q) : Gives good (p <|> q) := by
  intro cs left a ran
  rcases orElse_eq_some.1 ran with found | ⟨-, found⟩
  · exact first found
  · exact second found

end Gives

section Begins

variable {α β : Type} {p q : Scan α} {opens opens' : Char → Prop}

/-- What is taken starts with a certain character. -/
def Begins (opens : Char → Prop) (p : Scan α) : Prop :=
  ∀ ⦃cs left : List Char⦄ ⦃a : α⦄, p cs = some (a, left) → ∃ c taken, cs = c :: taken ++ left ∧ opens c

theorem Begins.takes (begins : Begins opens p) : Takes p := by
  intro cs left a ran
  obtain ⟨c, taken, whole, -⟩ := begins ran
  exact ⟨c :: taken, whole⟩

theorem Begins.eq_none (begins : Begins opens p) {c : Char} (closed : ¬ opens c) (rest : List Char) :
    p (c :: rest) = none := by
  rw [Option.eq_none_iff_forall_ne_some]
  rintro ⟨a, left⟩ found
  obtain ⟨first, taken, whole, opened⟩ := begins found
  cases (List.cons.inj whole).1
  exact closed opened

theorem Begins.mono (begins : Begins opens p) (wide : ∀ c, opens c → opens' c) : Begins opens' p := by
  intro cs left a ran
  obtain ⟨c, taken, whole, opened⟩ := begins ran
  exact ⟨c, taken, whole, wide c opened⟩

theorem begins_satisfy (accepts : Char → Bool) : Begins (accepts · = true) (satisfy accepts) := by
  intro cs left c ran
  obtain ⟨whole, accepted⟩ := satisfy_eq_some.1 ran
  exact ⟨c, [], whole, accepted⟩

theorem begins_char (c : Char) : Begins (· = c) (char c) :=
  fun _ _ _ ran => ⟨c, [], char_eq_some.1 ran, rfl⟩

theorem begins_literal {s : String} {c : Char} {rest : List Char} (start : s.toList = c :: rest) :
    Begins (· = c) (literal s) := by
  intro cs left u ran
  have whole := literal_eq_some.1 ran
  rw [start] at whole
  exact ⟨c, rest, whole, rfl⟩

theorem begins_run1 (accepts : Char → Bool) : Begins (accepts · = true) (run1 accepts) := by
  intro cs left taken ran
  obtain ⟨front, middle, found, rest⟩ := bind_eq_some.1 ran
  obtain ⟨whole, all, -⟩ := run_eq_some.1 found
  cases front with
  | nil => cases rest
  | cons c front =>
    obtain ⟨-, rfl⟩ := pure_eq_some.1 rest
    exact ⟨c, front, whole, all c List.mem_cons_self⟩

theorem Begins.bind {f : α → Scan β} (begins : Begins opens p) (next : ∀ a, Takes (f a)) :
    Begins opens (p >>= f) := by
  intro cs left b ran
  obtain ⟨a, middle, found, last⟩ := bind_eq_some.1 ran
  obtain ⟨c, taken, rfl, opened⟩ := begins found
  obtain ⟨more, rfl⟩ := next a last
  exact ⟨c, taken ++ more, by simp, opened⟩

theorem Begins.map (begins : Begins opens p) (f : α → β) : Begins opens (f <$> p) := by
  intro cs left b ran
  obtain ⟨a, found, -⟩ := map_eq_some.1 ran
  exact begins found

theorem Begins.orElse (first : Begins opens p) (second : Begins opens' q) :
    Begins (fun c => opens c ∨ opens' c) (p <|> q) := by
  intro cs left a ran
  rcases orElse_eq_some.1 ran with found | ⟨-, found⟩
  · obtain ⟨c, taken, whole, opened⟩ := first found
    exact ⟨c, taken, whole, .inl opened⟩
  · obtain ⟨c, taken, whole, opened⟩ := second found
    exact ⟨c, taken, whole, .inr opened⟩

/-- A part that may be missing leaves the start to what follows. -/
theorem Begins.optionally_bind {f : Option α → Scan β} (begins : Begins opens p)
    (next : ∀ a, Begins opens' (f a)) : Begins (fun c => opens c ∨ opens' c) (optionally p >>= f) := by
  intro cs left b ran
  obtain ⟨a, middle, found, last⟩ := bind_eq_some.1 ran
  obtain ⟨d, more, rfl, opened⟩ := next a last
  rcases orElse_eq_some.1 found with first | ⟨-, missing⟩
  · obtain ⟨c, taken, rfl, opened⟩ := begins.map some first
    exact ⟨c, taken ++ d :: more, by simp, .inl opened⟩
  · exact ⟨d, more, (pure_eq_some.1 missing).2, .inr opened⟩

/-- A run of characters may be empty, so what follows it counts as well. -/
theorem begins_run_bind {accepts : Char → Bool} {f : List Char → Scan β}
    (next : ∀ taken, Begins opens (f taken)) :
    Begins (fun c => accepts c = true ∨ opens c) (run accepts >>= f) := by
  intro cs left b ran
  obtain ⟨taken, middle, found, last⟩ := bind_eq_some.1 ran
  obtain ⟨whole, all, -⟩ := run_eq_some.1 found
  obtain ⟨d, more, rfl, opened⟩ := next taken last
  cases taken with
  | nil => exact ⟨d, more, whole, .inr opened⟩
  | cons c taken => exact ⟨c, taken ++ d :: more, by simp [whole], .inl (all c List.mem_cons_self)⟩

end Begins

section Lasting

variable {α β : Type} {p : Scan α}

/-- A scanner that fails on a text fails on each first part of it. -/
def Lasting (p : Scan α) : Prop :=
  ∀ ⦃front rest : List Char⦄, p (front ++ rest) = none → p front = none

theorem lasting_satisfy_bind {accepts : Char → Bool} {f : Char → Scan β} (next : ∀ c, Lasting (f c)) :
    Lasting (satisfy accepts >>= f) := by
  intro front rest missing
  cases front with
  | nil => rfl
  | cons c front =>
    change (satisfy accepts (c :: front ++ rest)).bind (fun found => f found.1 found.2) = none at missing
    change (satisfy accepts (c :: front)).bind (fun found => f found.1 found.2) = none
    by_cases accepted : accepts c = true
    · simp only [List.cons_append, satisfy, if_pos accepted, Option.bind_some] at missing ⊢
      exact next c missing
    · simp only [satisfy, if_neg accepted, Option.bind_none]

theorem lasting_pure (a : α) : Lasting (pure a) := nofun

theorem lasting_char (c : Char) : Lasting (char c) := lasting_satisfy_bind fun _ => lasting_pure ()

theorem lasting_char_bind {c : Char} (lasting : Lasting p) : Lasting (do char c; p) := by
  unfold char
  rw [bind_assoc]
  exact lasting_satisfy_bind fun _ => lasting

theorem Lasting.map (lasting : Lasting p) (f : α → β) : Lasting (f <$> p) := fun _ _ missing =>
  map_eq_none_iff.2 (lasting (map_eq_none_iff.1 missing))

theorem run1_cons_eq_none {accepts : Char → Bool} {c : Char} {cs : List Char} :
    run1 accepts (c :: cs) = none ↔ accepts c = false := by
  change ((guard (!(List.takeWhile accepts (c :: cs)).isEmpty) : Scan Unit) _).bind _ = none ↔ _
  cases accepted : accepts c with
  | true =>
    rw [List.takeWhile_cons_of_pos accepted]
    exact ⟨nofun, nofun⟩
  | false =>
    rw [List.takeWhile_cons_of_neg (by simp [accepted])]
    exact ⟨fun _ => rfl, fun _ => rfl⟩

theorem lasting_run1 (accepts : Char → Bool) : Lasting (run1 accepts) := by
  intro front rest missing
  cases front with
  | nil => rfl
  | cons c front => exact run1_cons_eq_none.2 (run1_cons_eq_none.1 missing)

end Lasting

section Carries

variable {α β : Type} {p q : Scan α} {stops opens : Char → Prop}

/-- What `p` does inside the front of a text, `q` does with the front alone. -/
structure Carries (p q : Scan α) : Prop where
  takes : Takes p
  alone {front rest left : List Char} {a : α} : p (front ++ rest) = some (a, left ++ rest) →
    q front = some (a, left)

/-- What `p` does inside the front of a text, where it stops before a certain character, `q` does with the
front alone. -/
structure CarriesBefore (stops : Char → Prop) (p q : Scan α) : Prop where
  takes : Takes p
  alone {front rest left : List Char} {a : α} {c : Char} : stops c →
    p (front ++ rest) = some (a, c :: left ++ rest) → q front = some (a, c :: left)

theorem Carries.covered (carries : Carries p q) {part : List Char} {a : α} (covers : Covers p part a) :
    q part = some (a, []) := by
  obtain ⟨rest, ran⟩ := covers
  exact carries.alone ran

theorem carries_pure (a : α) : Carries (pure a) (pure a) where
  takes := takes_pure a
  alone ran := by
    obtain ⟨same, whole⟩ := pure_eq_some.1 ran
    exact pure_eq_some.2 ⟨same, List.append_cancel_right whole⟩

theorem carries_failure : Carries (failure : Scan α) failure where
  takes _ _ _ ran := absurd ran failure_eq_some
  alone ran := absurd ran failure_eq_some

theorem carries_next : Carries next next where
  takes _ _ c ran := ⟨[c], next_eq_some.1 ran⟩
  alone ran := next_eq_some.2 (List.append_cancel_right (next_eq_some.1 ran))

theorem carries_satisfy (accepts : Char → Bool) : Carries (satisfy accepts) (satisfy accepts) where
  takes _ _ c ran := ⟨[c], (satisfy_eq_some.1 ran).1⟩
  alone ran := by
    obtain ⟨whole, accepted⟩ := satisfy_eq_some.1 ran
    exact satisfy_eq_some.2 ⟨List.append_cancel_right whole, accepted⟩

theorem carries_char (c : Char) : Carries (char c) (char c) where
  takes _ _ _ ran := ⟨[c], char_eq_some.1 ran⟩
  alone ran := char_eq_some.2 (List.append_cancel_right (char_eq_some.1 ran))

theorem carries_literal (s : String) : Carries (literal s) (literal s) where
  takes _ _ _ ran := ⟨s.toList, literal_eq_some.1 ran⟩
  alone ran := by
    have whole := literal_eq_some.1 ran
    rw [← List.append_assoc] at whole
    exact literal_eq_some.2 (List.append_cancel_right whole)

theorem carries_exactly (n : Nat) (accepts : Char → Bool) :
    Carries (exactly n accepts) (exactly n accepts) where
  takes _ _ taken ran := ⟨taken, (exactly_eq_some.1 ran).1⟩
  alone ran := by
    obtain ⟨whole, length, all⟩ := exactly_eq_some.1 ran
    rw [← List.append_assoc] at whole
    exact exactly_eq_some.2 ⟨List.append_cancel_right whole, length, all⟩

theorem carries_run (accepts : Char → Bool) : Carries (run accepts) (run accepts) where
  takes _ _ taken ran := ⟨taken, (run_eq_some.1 ran).1⟩
  alone {_ rest _ _} ran := by
    obtain ⟨whole, all, stop⟩ := run_eq_some.1 ran
    rw [← List.append_assoc] at whole
    refine run_eq_some.2 ⟨List.append_cancel_right whole, all, ?_⟩
    rintro c more rfl
    exact stop c (more ++ rest) rfl

theorem carries_guard (condition : Prop) [Decidable condition] :
    Carries (guard condition : Scan Unit) (guard condition) := by
  unfold guard
  split
  · exact carries_pure ()
  · exact carries_failure

theorem carries_lift (found : Option α) : Carries (liftM found : Scan α) (liftM found) := by
  cases found with
  | none => exact ⟨nofun, nofun⟩
  | some a => exact carries_pure a

theorem Carries.bind {f g : α → Scan β} (first : Carries p q) (next : ∀ a, Carries (f a) (g a)) :
    Carries (p >>= f) (q >>= g) where
  takes := first.takes.bind fun a => (next a).takes
  alone ran := by
    obtain ⟨a, middle, found, last⟩ := bind_eq_some.1 ran
    obtain ⟨more, rfl⟩ := (next a).takes last
    rw [← List.append_assoc] at found last
    exact bind_eq_some.2 ⟨a, _, first.alone found, (next a).alone last⟩

/-- A scanner that stops before a character may be followed by one that starts with it. -/
theorem CarriesBefore.bind {f g : α → Scan β} (first : CarriesBefore stops p q)
    (next : ∀ a, Carries (f a) (g a)) (begins : ∀ a, Begins stops (f a)) :
    Carries (p >>= f) (q >>= g) where
  takes := first.takes.bind fun a => (next a).takes
  alone ran := by
    obtain ⟨a, middle, found, last⟩ := bind_eq_some.1 ran
    obtain ⟨c, more, rfl, stop⟩ := begins a last
    rw [← List.append_assoc] at found last
    exact bind_eq_some.2 ⟨a, _, first.alone stop found, (next a).alone last⟩

theorem Carries.bind_before {f g : α → Scan β} (first : Carries p q)
    (next : ∀ a, CarriesBefore stops (f a) (g a)) : CarriesBefore stops (p >>= f) (q >>= g) where
  takes := first.takes.bind fun a => (next a).takes
  alone stop ran := by
    obtain ⟨a, middle, found, last⟩ := bind_eq_some.1 ran
    obtain ⟨more, rfl⟩ := (next a).takes last
    rw [← List.append_assoc] at found last
    exact bind_eq_some.2 ⟨a, _, first.alone found, (next a).alone stop last⟩

theorem Carries.map (carries : Carries p q) (f : α → β) : Carries (f <$> p) (f <$> q) where
  takes := carries.takes.map f
  alone ran := by
    obtain ⟨a, found, same⟩ := map_eq_some.1 ran
    exact map_eq_some.2 ⟨a, carries.alone found, same⟩

theorem CarriesBefore.map (carries : CarriesBefore stops p q) (f : α → β) :
    CarriesBefore stops (f <$> p) (f <$> q) where
  takes := carries.takes.map f
  alone stop ran := by
    obtain ⟨a, found, same⟩ := map_eq_some.1 ran
    exact map_eq_some.2 ⟨a, carries.alone stop found, same⟩

theorem carries_run1 (accepts : Char → Bool) : Carries (run1 accepts) (run1 accepts) :=
  (carries_run accepts).bind fun taken => (carries_guard _).bind fun _ => carries_pure taken

/-- One of two scanners that start with different characters. -/
theorem Carries.orElse {p' q' : Scan α} {opens' : Char → Prop} (first : Carries p q)
    (second : Carries p' q') (begins : Begins opens q) (begins' : Begins opens' q')
    (apart : ∀ c, opens c → ¬ opens' c) : Carries (p <|> p') (q <|> q') where
  takes := first.takes.orElse second.takes
  alone ran := by
    rcases orElse_eq_some.1 ran with found | ⟨-, found⟩
    · exact orElse_eq_some.2 (.inl (first.alone found))
    · have own := second.alone found
      obtain ⟨c, taken, rfl, opened⟩ := begins' own
      exact orElse_eq_some.2 (.inr ⟨begins.eq_none (fun other => apart c other opened) _, own⟩)

theorem Carries.orElse_of_left (carries : Carries p q) (other : Scan α) : Carries p (q <|> other) where
  takes := carries.takes
  alone ran := orElse_eq_some.2 (.inl (carries.alone ran))

/-- A part that may be missing is missing before a character with which it does not start. -/
theorem CarriesBefore.optionally (carries : CarriesBefore stops p q) (begins : Begins opens q)
    (apart : ∀ c, opens c → ¬ stops c) : CarriesBefore stops (optionally p) (optionally q) where
  takes := carries.takes.optionally
  alone {front rest left a c} stop ran := by
    rcases orElse_eq_some.1 ran with found | ⟨-, missing⟩
    · exact orElse_eq_some.2 (.inl ((carries.map some).alone stop found))
    · obtain ⟨same, whole⟩ := pure_eq_some.1 missing
      have own := List.append_cancel_right whole
      refine orElse_eq_some.2 (.inr ⟨?_, pure_eq_some.2 ⟨same, own⟩⟩)
      rw [own]
      exact map_eq_none_iff.2 (begins.eq_none (fun opened => apart c opened stop) left)

/-- The second of two scanners counts where the first one fails, which it then does on the front as well. -/
theorem Carries.orElse_of_lasting {p' q' : Scan α} (first : Carries p p) (second : Carries p' q')
    (lasting : Lasting p) : Carries (p <|> p') (p <|> q') where
  takes := first.takes.orElse second.takes
  alone ran := by
    rcases orElse_eq_some.1 ran with found | ⟨missing, found⟩
    · exact orElse_eq_some.2 (.inl (first.alone found))
    · exact orElse_eq_some.2 (.inr ⟨lasting missing, second.alone found⟩)

theorem Carries.optionally (carries : Carries p p) (lasting : Lasting p) :
    Carries (optionally p) (optionally p) :=
  (carries.map some).orElse_of_lasting (carries_pure none) (lasting.map some)

/-- The parts in the front are no more than its characters, so a bound on their number that fits the front
is as good as one that fits the text. -/
theorem Carries.upTo_front (carries : Carries p q) (begins : Begins opens q) {front rest left : List Char}
    {c : Char} {xs : List α} {count bound : Nat} (missing : q (c :: left) = none)
    (enough : front.length ≤ bound)
    (ran : upTo p count (front ++ rest) = some (xs, c :: left ++ rest)) :
    upTo q bound front = some (xs, c :: left) := by
  induction count generalizing front xs bound with
  | zero =>
    obtain ⟨same, whole⟩ := pure_eq_some.1 ran
    rw [List.append_cancel_right whole, ← same]
    exact upTo_nil missing bound
  | succ count ih =>
    rcases upTo_succ_eq_some ran with ⟨x, ys, middle, first, others, rfl⟩ | ⟨same, whole⟩
    · obtain ⟨more, rfl⟩ := carries.takes.upTo _ others
      rw [← List.append_assoc] at first others
      have own := carries.alone first
      obtain ⟨d, taken, rfl, -⟩ := begins own
      cases bound with
      | zero => cases enough
      | succ bound =>
        have shorter : (more ++ c :: left).length ≤ bound := by
          simp only [List.length_append, List.length_cons] at enough ⊢
          omega
        exact upTo_cons own (ih shorter others)
    · rw [List.append_cancel_right whole, same]
      exact upTo_nil missing bound

/-- A repetition stops before a character with which its parts do not start. -/
theorem Carries.many (carries : Carries p q) (begins : Begins opens q)
    (apart : ∀ c, opens c → ¬ stops c) : CarriesBefore stops (many p) (many q) where
  takes := carries.takes.many
  alone {_ _ left _ c} stop ran := by
    have missing := begins.eq_none (fun opened => apart c opened stop) left
    exact carries.upTo_front begins missing (Nat.le_refl _) ran

theorem carriesBefore_separated {separator : Scan Unit} (carries : Carries p q) (takes : Takes q)
    (between : Carries separator separator) (begins : Begins opens separator)
    (apart : ∀ c, opens c → ¬ stops c) :
    CarriesBefore stops (separated p separator) (separated q separator) := by
  refine carries.bind_before fun first => ?_
  rw [bind_pure_comp, bind_pure_comp]
  have others := between.bind fun _ => carries
  exact (Carries.many others (begins.bind fun _ => takes) apart).map (first :: ·)

end Carries

end ShaderDriver.Scan
