import Mathlib.Data.List.Perm.Basic
import ShaderDriver.Toolchain.Version

namespace ShaderDriver.Version

theorem rank_eq (v : Version) :
    v.rank = ((v.major.toNat * 4294967296 + v.minor.toNat) * 4294967296 + v.micro.toNat) * 4294967296 +
      v.patch.toNat := by
  simp only [rank, parts, List.foldl_cons, List.foldl_nil, UInt32.size, Nat.zero_mul, Nat.zero_add]

/-- Versions are compared by their components, the major one first. -/
theorem lt_iff (a b : Version) :
    a < b ↔ a.major < b.major ∨ a.major = b.major ∧ (a.minor < b.minor ∨ a.minor = b.minor ∧
      (a.micro < b.micro ∨ a.micro = b.micro ∧ a.patch < b.patch)) := by
  have ranked : a < b ↔ a.rank < b.rank := Iff.rfl
  have bounds (n : UInt32) : n.toNat < 4294967296 := n.toNat_lt
  have := bounds a.minor
  have := bounds a.micro
  have := bounds a.patch
  have := bounds b.minor
  have := bounds b.micro
  have := bounds b.patch
  rw [ranked, rank_eq, rank_eq]
  simp only [UInt32.lt_iff_toNat_lt, ← UInt32.toNat_inj]
  omega

theorem rank_injective {a b : Version} (same : a.rank = b.rank) : a = b := by
  have notLess : ¬ a < b := fun less => Nat.ne_of_lt less same
  have notMore : ¬ b < a := fun more => Nat.ne_of_gt more same
  rw [lt_iff] at notLess notMore
  obtain ⟨major, minor, micro, patch⟩ := a
  obtain ⟨major', minor', micro', patch'⟩ := b
  simp only [UInt32.lt_iff_toNat_lt, ← UInt32.toNat_inj, mk.injEq] at *
  omega

theorem le_antisymm {a b : Version} (lower : a ≤ b) (upper : b ≤ a) : a = b :=
  rank_injective (Nat.le_antisymm lower upper)

section NewestFirst

variable {α : Type} {key : α → Version}

theorem newestFirst_perm (key : α → Version) (xs : List α) : (newestFirst key xs).Perm xs :=
  List.mergeSort_perm xs _

theorem newestFirst_eq_nil {xs : List α} : newestFirst key xs = [] ↔ xs = [] := by
  rw [← List.length_eq_zero_iff, (newestFirst_perm key xs).length_eq, List.length_eq_zero_iff]

theorem comparison_trans (a b c : α) (first : decide (key b ≤ key a) = true)
    (second : decide (key c ≤ key b) = true) : decide (key c ≤ key a) = true := by
  rw [decide_eq_true_eq] at *
  exact Nat.le_trans second first

theorem comparison_total (a b : α) :
    (decide (key b ≤ key a) || decide (key a ≤ key b)) = true := by
  rw [Bool.or_eq_true, decide_eq_true_eq, decide_eq_true_eq]
  exact Nat.le_total ..

theorem newestFirst_sorted (key : α → Version) (xs : List α) :
    (newestFirst key xs).Pairwise fun newer older => key older ≤ key newer := by
  have sorted : (newestFirst key xs).Pairwise fun newer older => decide (key older ≤ key newer) = true :=
    List.pairwise_mergeSort comparison_trans comparison_total xs
  exact sorted.imp fun compared => of_decide_eq_true compared

/-- What is sorted already keeps its order when more is sorted in. -/
theorem sublist_newestFirst {xs ys : List α}
    (sorted : xs.Pairwise fun newer older => key older ≤ key newer) (sub : xs.Sublist ys) :
    xs.Sublist (newestFirst key ys) :=
  List.sublist_mergeSort comparison_trans comparison_total
    (sorted.imp fun compared => decide_eq_true compared) sub

theorem newestFirst_of_sorted {xs : List α}
    (sorted : xs.Pairwise fun newer older => key older ≤ key newer) : newestFirst key xs = xs := by
  have sub := sublist_newestFirst sorted (List.Sublist.refl xs)
  exact (sub.eq_of_length (newestFirst_perm key xs).length_eq.symm).symm

/-- Elements of one version keep their order. -/
theorem filter_newestFirst (key : α → Version) (xs : List α) (v : Version) :
    (newestFirst key xs).filter (fun x => key x = v) = xs.filter fun x => key x = v := by
  have alike : (xs.filter fun x => key x = v).Pairwise fun newer older => key older ≤ key newer := by
    refine List.pairwise_of_forall_mem_list fun x first y second => ?_
    rw [List.mem_filter, decide_eq_true_eq] at first second
    rw [first.2, second.2]
    exact Nat.le_refl _
  have sub := (sublist_newestFirst alike List.filter_sublist).filter fun x => key x = v
  rw [List.filter_filter] at sub
  simp only [Bool.and_self] at sub
  exact (sub.eq_of_length ((newestFirst_perm key xs).filter _).length_eq.symm).symm

/-- What is in front has a version that no other exceeds. -/
theorem head_newest {x y : α} {xs : List α}
    (sorted : (x :: xs).Pairwise fun newer older => key older ≤ key newer) (member : y ∈ x :: xs) :
    key y ≤ key x := by
  rcases List.mem_cons.1 member with rfl | later
  · exact Nat.le_refl _
  · exact (List.pairwise_cons.1 sorted).1 y later

/-- A list that is ordered newest first is given by its elements of each version. -/
theorem eq_of_filter_eq {xs ys : List α}
    (sorted : xs.Pairwise fun newer older => key older ≤ key newer)
    (sorted' : ys.Pairwise fun newer older => key older ≤ key newer)
    (same : ∀ v, xs.filter (fun x => key x = v) = ys.filter fun x => key x = v) : xs = ys := by
  have among {us vs : List α} (same : ∀ v, us.filter (fun x => key x = v) = vs.filter fun x => key x = v)
      {x : α} (member : x ∈ us) : x ∈ vs := by
    have own : x ∈ us.filter fun y => key y = key x := List.mem_filter.2 ⟨member, by simp⟩
    rw [same] at own
    exact (List.mem_filter.1 own).1
  induction xs generalizing ys with
  | nil =>
    cases ys with
    | nil => rfl
    | cons y ys => cases among (fun v => (same v).symm) List.mem_cons_self
  | cons x xs ih =>
    cases ys with
    | nil => cases among same List.mem_cons_self
    | cons y ys =>
      have lower := head_newest sorted' (among same List.mem_cons_self)
      have upper := head_newest sorted (among (fun v => (same v).symm) List.mem_cons_self)
      have level : key x = key y := le_antisymm lower upper
      have fronts := same (key x)
      rw [List.filter_cons_of_pos (by simp), List.filter_cons_of_pos (by simp [level])] at fronts
      obtain ⟨rfl, -⟩ := List.cons.inj fronts
      refine congrArg (x :: ·) (ih (List.pairwise_cons.1 sorted).2 (List.pairwise_cons.1 sorted').2 fun v => ?_)
      have rest := same v
      by_cases here : key x = v
      · rw [List.filter_cons_of_pos (by simp [here]), List.filter_cons_of_pos (by simp [here])] at rest
        exact (List.cons.inj rest).2
      · rwa [List.filter_cons_of_neg (by simp [here]), List.filter_cons_of_neg (by simp [here])] at rest

/-- Lists that are sorted alike differ only in the order of elements of different versions. -/
theorem newestFirst_eq_iff {xs ys : List α} : newestFirst key xs = newestFirst key ys ↔
    ∀ v, xs.filter (fun x => key x = v) = ys.filter fun x => key x = v := by
  constructor
  · intro same v
    rw [← filter_newestFirst, same, filter_newestFirst]
  · intro same
    refine eq_of_filter_eq (newestFirst_sorted key xs) (newestFirst_sorted key ys) fun v => ?_
    rw [filter_newestFirst, filter_newestFirst, same]

/-- The order of what is sorted does not count where no two elements have one version. -/
theorem newestFirst_eq_of_perm {xs ys : List α} (perm : xs.Perm ys)
    (apart : ∀ x ∈ xs, ∀ y ∈ xs, key x = key y → x = y) : newestFirst key xs = newestFirst key ys := by
  have perm' := newestFirst_perm key xs
  refine List.Perm.eq_of_pairwise (fun x y first second older newer => ?_) (newestFirst_sorted key xs)
    (newestFirst_sorted key ys) (perm'.trans (perm.trans (newestFirst_perm key ys).symm))
  have second' := perm.mem_iff.2 ((newestFirst_perm key ys).mem_iff.1 second)
  exact apart x (perm'.mem_iff.1 first) y second' (le_antisymm newer older)

end NewestFirst

end ShaderDriver.Version

namespace ShaderDriver

/-- One more element is somewhere in the list, and all else is as it was. -/
def Inserted {α : Type} (x : α) (xs ys : List α) : Prop :=
  ∃ front back, xs = front ++ back ∧ ys = front ++ x :: back

variable {α : Type} {xs ys : List α}

theorem inserted_of_sublist (sub : xs.Sublist ys) (length : ys.length = xs.length + 1) :
    ∃ x, Inserted x xs ys := by
  induction sub with
  | slnil => cases length
  | @cons xs ys y sub _ =>
    have whole : xs = ys := sub.eq_of_length (Nat.succ.inj length).symm
    exact ⟨y, [], ys, whole, rfl⟩
  | @cons_cons xs ys x sub ih =>
    obtain ⟨y, front, back, before, after⟩ := ih (Nat.succ.inj length)
    exact ⟨y, x :: front, back, by rw [before, List.cons_append], by rw [after, List.cons_append]⟩

theorem Inserted.eq_of_perm {x y : α} (inserted : Inserted x xs ys) (perm : ys.Perm (xs ++ [y])) :
    x = y := by
  obtain ⟨front, back, rfl, rfl⟩ := inserted
  have moved : (x :: (front ++ back)).Perm (y :: (front ++ back)) :=
    List.perm_middle.symm.trans (perm.trans (List.perm_append_singleton y _))
  exact List.singleton_perm_singleton.1 ((List.perm_append_right_iff (front ++ back)).1 moved)

theorem Version.newestFirst_inserted {key : α → Version}
    (sorted : xs.Pairwise fun newer older => key older ≤ key newer) (x : α) :
    Inserted x xs (newestFirst key (xs ++ [x])) := by
  -- The sorted list is a sublist of the sorted whole, which is longer by one: just one element is new.
  have perm := newestFirst_perm key (xs ++ [x])
  have sub := sublist_newestFirst sorted (List.sublist_append_left xs [x])
  have length : (newestFirst key (xs ++ [x])).length = xs.length + 1 := by
    rw [perm.length_eq, List.length_append, List.length_singleton]
  obtain ⟨y, inserted⟩ := inserted_of_sublist sub length
  rwa [inserted.eq_of_perm perm] at inserted

end ShaderDriver
