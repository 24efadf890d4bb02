import Mathlib.Data.List.Forall2
import MarketBridge.Session.Slots

/-!
# `Session.Slots` — reading the places back, and comparing them

`get?_set` and `get?_erase` say what a place holds after a change, `mem_toList_set` and
`mem_toList_erase` where the values come from. `Slots.Rel R` compares two
sequences of places: the same places are taken, and what stands in them is related by `R`. Every
change of the places keeps that relation. Places that are `Ordered` hold each number at most once,
so that putting a value there replaces one value at most (`Ordered.perm_set`).
-/

namespace MarketBridge.Slots

variable {α β : Type}

/-! ## Reading back -/

/-- Entries are found among those whose places pass a test on places. -/
theorem lookup_filter (p : Nat → Bool) (i : Nat) (entries : List (Nat × α)) :
    (entries.filter fun e => p e.1).lookup i = if p i then entries.lookup i else none := by
  induction entries with
  | nil => simp
  | cons e rest ih =>
    obtain ⟨j, a⟩ := e
    by_cases hj : i = j
    · subst hj
      cases hp : p i <;> simp [hp, ih]
    · have hne : (i == j) = false := by simpa using hj
      cases hp : p j <;> simp [hp, ih, List.lookup_cons, hne]

@[simp] theorem get?_empty (i : Nat) : (empty : Slots α).get? i = none := rfl

theorem get?_erase (s : Slots α) (i j : Nat) :
    (s.erase i).get? j = if j = i then none else s.get? j := by
  unfold erase get?
  rw [lookup_filter (fun k => k != i)]
  by_cases h : j = i <;> simp [h]

theorem get?_set (s : Slots α) (i j : Nat) (a : α) :
    (s.set i a).get? j = if j = i then some a else s.get? j := by
  unfold set get?
  rw [List.lookup_append, List.lookup_cons, lookup_filter (fun k => decide (k < i)),
    lookup_filter (fun k => decide (i < k))]
  rcases Nat.lt_trichotomy j i with h | h | h
  · have hne : j ≠ i := by omega
    have hgt : ¬ i < j := by omega
    simp [h, hne, hgt, beq_false_of_ne hne]
  · simp [h]
  · have hne : j ≠ i := by omega
    have hgt : ¬ j < i := by omega
    simp [h, hne, hgt, beq_false_of_ne hne]

theorem mem_toList_of_get? {s : Slots α} {i : Nat} {a : α} (h : s.get? i = some a) :
    a ∈ s.toList := by
  unfold get? at h
  obtain ⟨before, after, hs, -⟩ := List.lookup_eq_some_iff.mp h
  unfold toList
  rw [hs]
  simp

theorem mem_toList_erase {s : Slots α} {i : Nat} {a : α} (h : a ∈ (s.erase i).toList) :
    a ∈ s.toList := by
  unfold toList erase at h
  obtain ⟨e, he, rfl⟩ := List.mem_map.mp h
  exact List.mem_map_of_mem (List.mem_of_mem_filter he)

theorem mem_toList_set {s : Slots α} {i : Nat} {a b : α} (h : a ∈ (s.set i b).toList) :
    a = b ∨ a ∈ s.toList := by
  unfold toList set at h
  obtain ⟨e, he, rfl⟩ := List.mem_map.mp h
  rw [List.mem_append, List.mem_cons] at he
  rcases he with before | rfl | after
  · exact .inr (List.mem_map_of_mem (List.mem_of_mem_filter before))
  · exact .inl rfl
  · exact .inr (List.mem_map_of_mem (List.mem_of_mem_filter after))

/-! ## Rising places -/

/-- The places are listed in rising order of their numbers, each at most once. -/
def Ordered (s : Slots α) : Prop :=
  s.entries.Pairwise fun x y => x.1 < y.1

theorem ordered_empty : (empty : Slots α).Ordered := List.Pairwise.nil

theorem Ordered.erase {s : Slots α} (h : s.Ordered) (i : Nat) : (s.erase i).Ordered :=
  List.Pairwise.filter _ h

theorem Ordered.set {s : Slots α} (h : s.Ordered) (i : Nat) (a : α) : (s.set i a).Ordered := by
  unfold Ordered Slots.set
  rw [List.pairwise_append, List.pairwise_cons]
  refine ⟨List.Pairwise.filter _ h, ⟨?_, List.Pairwise.filter _ h⟩, ?_⟩
  · intro e he
    simpa using List.of_mem_filter he
  · intro x hx y hy
    have hlow : x.1 < i := by simpa using List.of_mem_filter hx
    rcases List.mem_cons.mp hy with rfl | hy
    · exact hlow
    · have hhigh : i < y.1 := by simpa using List.of_mem_filter hy
      exact Nat.lt_trans hlow hhigh

/-- The entry of a taken place stands between those of lower and those of higher places. -/
theorem Ordered.split {s : Slots α} (h : s.Ordered) {i : Nat} {a : α} (hi : s.get? i = some a) :
    ∃ before after, s.entries = before ++ (i, a) :: after ∧ (∀ e ∈ before, e.1 < i) ∧
      ∀ e ∈ after, i < e.1 := by
  unfold get? at hi
  obtain ⟨before, after, hs, -⟩ := List.lookup_eq_some_iff.mp hi
  unfold Ordered at h
  rw [hs, List.pairwise_append, List.pairwise_cons] at h
  obtain ⟨-, ⟨hafter, -⟩, hbefore⟩ := h
  exact ⟨before, after, hs, fun e he => hbefore e he (i, a) List.mem_cons_self, hafter⟩

/-- Putting back what stands there changes nothing. -/
theorem Ordered.set_of_get? {s : Slots α} (h : s.Ordered) {i : Nat} {a : α}
    (hi : s.get? i = some a) : s.set i a = s := by
  obtain ⟨before, after, hs, hbefore, hafter⟩ := h.split hi
  obtain ⟨entries⟩ := s
  dsimp only at hs
  subst hs
  have hlow : (before.filter fun e => e.1 < i) = before :=
    List.filter_eq_self.mpr fun e he => by simpa using hbefore e he
  have hnone : (after.filter fun e => e.1 < i) = [] :=
    List.filter_eq_nil_iff.mpr fun e he => by simpa using Nat.le_of_lt (hafter e he)
  have hhigh : (after.filter fun e => i < e.1) = after :=
    List.filter_eq_self.mpr fun e he => by simpa using hafter e he
  have hlost : (before.filter fun e => i < e.1) = [] :=
    List.filter_eq_nil_iff.mpr fun e he => by simpa using Nat.le_of_lt (hbefore e he)
  unfold Slots.set
  simp [hlow, hnone, hhigh, hlost]

/-! ## Taking stock -/

/-- Entries are at the place itself, at lower places, or at higher places. -/
theorem perm_entries (i : Nat) (entries : List (Nat × α)) :
    ((entries.filter fun e => e.1 == i) ++
      ((entries.filter fun e => e.1 < i) ++ entries.filter fun e => i < e.1)).Perm entries := by
  induction entries with
  | nil => exact .nil
  | cons e rest ih =>
    rcases Nat.lt_trichotomy e.1 i with low | rfl | high
    · have hgt : ¬ i < e.1 := by omega
      have hne : e.1 ≠ i := by omega
      simp only [List.filter_cons, low, hgt, beq_false_of_ne hne, decide_true, decide_false,
        if_true]
      exact List.perm_middle.trans (ih.cons e)
    · simp only [List.filter_cons, Nat.lt_irrefl, beq_self_eq_true, decide_false, if_true]
      exact ih.cons e
    · have hlt : ¬ e.1 < i := by omega
      have hne : e.1 ≠ i := by omega
      simp only [List.filter_cons, high, hlt, beq_false_of_ne hne, decide_true, decide_false,
        if_true]
      rw [← List.append_assoc] at ih ⊢
      exact List.perm_middle.trans (ih.cons e)

theorem Ordered.filter_at {s : Slots α} (h : s.Ordered) (i : Nat) :
    (s.entries.filter fun e => e.1 == i).map (·.2) = (s.get? i).toList := by
  cases hi : s.get? i with
  | none =>
    have hnone := List.lookup_eq_none_iff.mp hi
    have hempty : (s.entries.filter fun e => e.1 == i) = [] := by
      rw [List.filter_eq_nil_iff]
      intro e he
      have hne : i ≠ e.1 := by simpa using hnone e he
      simpa using hne.symm
    rw [hempty]
    rfl
  | some a =>
    obtain ⟨before, after, hs, hbefore, hafter⟩ := h.split hi
    have hlow : (before.filter fun e => e.1 == i) = [] := by
      rw [List.filter_eq_nil_iff]
      intro e he
      simpa using Nat.ne_of_lt (hbefore e he)
    have hhigh : (after.filter fun e => e.1 == i) = [] := by
      rw [List.filter_eq_nil_iff]
      intro e he
      simpa using Nat.ne_of_gt (hafter e he)
    simp [hs, hlow, hhigh]

/-- Of a place that is set, the new value comes in and the old one, if any, goes out. -/
theorem Ordered.perm_set {s : Slots α} (h : s.Ordered) (i : Nat) (a : α) :
    ((s.get? i).toList ++ (s.set i a).toList).Perm (s.toList ++ [a]) := by
  have hall := (perm_entries i s.entries).map (·.2)
  rw [List.map_append, h.filter_at, List.map_append] at hall
  unfold toList Slots.set
  rw [List.map_append, List.map_cons]
  -- the new value moves to the end, past the values at higher places
  refine (List.Perm.append_left _ List.perm_middle).trans (List.perm_middle.trans ?_)
  exact (hall.cons a).trans (List.perm_append_singleton a _).symm

/-- Of a place that is erased, the value goes out. -/
theorem Ordered.perm_erase {s : Slots α} (h : s.Ordered) (i : Nat) :
    ((s.get? i).toList ++ (s.erase i).toList).Perm s.toList := by
  have hall := (List.filter_append_perm (fun e => e.1 == i) s.entries).map (·.2)
  rw [List.map_append, h.filter_at] at hall
  exact hall

/-! ## Comparing -/

/-- The same places are taken, by related values. -/
def Rel (R : α → β → Prop) (s : Slots α) (t : Slots β) : Prop :=
  List.Forall₂ (fun x y => x.1 = y.1 ∧ R x.2 y.2) s.entries t.entries

namespace Rel

variable {R : α → β → Prop} {s : Slots α} {t : Slots β}

theorem empty : Rel R Slots.empty Slots.empty := List.Forall₂.nil

theorem get? (h : Rel R s t) (i : Nat) : Option.Rel R (s.get? i) (t.get? i) := by
  unfold Slots.get?
  unfold Rel at h
  generalize s.entries = xs, t.entries = ys at h
  induction h with
  | nil => exact .none
  | @cons x y xs ys hxy _ ih =>
    obtain ⟨i', a⟩ := x
    obtain ⟨j', b⟩ := y
    obtain ⟨rfl, hab⟩ : i' = j' ∧ R a b := hxy
    by_cases hi : i = i'
    · subst hi
      simpa using Option.Rel.some hab
    · have hne : (i == i') = false := by simpa using hi
      simpa [List.lookup_cons, hne] using ih

/-- Places chosen by a test on places stay related. -/
theorem filter (p : Nat → Bool) {xs : List (Nat × α)} {ys : List (Nat × β)}
    (h : List.Forall₂ (fun x y => x.1 = y.1 ∧ R x.2 y.2) xs ys) :
    List.Forall₂ (fun x y => x.1 = y.1 ∧ R x.2 y.2) (xs.filter fun e => p e.1)
      (ys.filter fun e => p e.1) := by
  refine List.rel_filter (fun x y hxy => ?_) h
  dsimp only
  rw [hxy.1]

theorem erase (h : Rel R s t) (i : Nat) : Rel R (s.erase i) (t.erase i) :=
  filter (fun k => k != i) h

theorem set (h : Rel R s t) (i : Nat) {a : α} {b : β} (hab : R a b) :
    Rel R (s.set i a) (t.set i b) :=
  List.rel_append (filter (fun k => decide (k < i)) h)
    (.cons ⟨rfl, hab⟩ (filter (fun k => decide (i < k)) h))

theorem ordered (h : Rel R s t) (hs : s.Ordered) : t.Ordered := by
  have hnumbers : s.entries.map (·.1) = t.entries.map (·.1) := by
    rw [← List.forall₂_eq_eq_eq, List.forall₂_map_left_iff, List.forall₂_map_right_iff]
    exact h.imp fun _ _ hxy => hxy.1
  unfold Ordered at hs ⊢
  rw [← List.pairwise_map] at hs ⊢
  rwa [← hnumbers]

theorem toList (h : Rel R s t) : List.Forall₂ R s.toList t.toList := by
  unfold Slots.toList
  rw [List.forall₂_map_left_iff, List.forall₂_map_right_iff]
  exact h.imp fun _ _ hxy => hxy.2

theorem imp (h : Rel R s t) {R' : α → β → Prop} (hR : ∀ a b, R a b → R' a b) : Rel R' s t :=
  List.Forall₂.imp (fun _ _ hxy => ⟨hxy.1, hR _ _ hxy.2⟩) h

/-- Places that hold equal values are the same. -/
theorem eq_of_eq {s t : Slots α} (h : Rel Eq s t) : s = t := by
  have hentries : List.Forall₂ Eq s.entries t.entries :=
    List.Forall₂.imp (fun _ _ hxy => Prod.ext hxy.1 hxy.2) h
  obtain ⟨xs⟩ := s
  obtain ⟨ys⟩ := t
  rw [List.forall₂_eq_eq_eq] at hentries
  exact congrArg Slots.mk hentries

end Rel

end MarketBridge.Slots
