import Gleaner.Dictionary
import Mathlib.Data.List.Forall2

set_option autoImplicit false

/-! # Entry lists in order

Where insertion puts an entry, and what follows for lists whose keys ascend: entering the pairs of
such a list one after the other gives back the list (`Entries.ofList_eq_self`), and so does taking
an entry out and inserting it again (`Entries.insert_filter_ne`).

Where no key is repeated, entering pairs is sorting them by their keys (`Entries.ofList_eq_sorted`),
so the order in which they are entered does not show (`Entries.ofList_eq_of_perm`); and two such lists
with the same value under every key have the same entries (`Entries.perm_of_get?_eq`). Pairs that are
related one by one are related as entries, too (`Entries.forall₂_ofList`). -/

namespace Gleaner.Entries

variable {α β : Type _}

/-! ## Ordered lists -/

theorem Ordered.head_lt {key : String} {value : α} {rest : List (String × α)}
    (h : Ordered ((key, value) :: rest)) : ∀ e ∈ rest, key < e.1 :=
  (List.pairwise_cons.mp h).1

theorem Ordered.tail {head : String × α} {rest : List (String × α)} (h : Ordered (head :: rest)) :
    Ordered rest :=
  (List.pairwise_cons.mp h).2

/-- The key that stands in front occurs nowhere behind. -/
theorem Ordered.key_ne {key : String} {value : α} {rest : List (String × α)}
    (h : Ordered ((key, value) :: rest)) : ∀ e ∈ rest, e.1 ≠ key := by
  intro e he heq
  exact String.lt_irrefl key (heq ▸ h.head_lt e he)

theorem Ordered.filter {entries : List (String × α)} (h : Ordered entries)
    (keep : String × α → Bool) : Ordered (entries.filter keep) :=
  List.Pairwise.sublist List.filter_sublist h

/-- Order is a matter of the keys alone. -/
theorem ordered_map_iff (f : String × α → β) (entries : List (String × α)) :
    Ordered (entries.map fun e => (e.1, f e)) ↔ Ordered entries := by
  simp only [Ordered, List.pairwise_map]

/-- Changing the values leaves a list alone when it leaves every value alone. -/
theorem map_values_eq_self_iff {f : α → α} {entries : List (String × α)} :
    (entries.map fun e => (e.1, f e.2)) = entries ↔ ∀ e ∈ entries, f e.2 = e.2 := by
  induction entries with
  | nil => simp
  | cons head rest ih =>
    simp only [List.map_cons, List.cons.injEq, ih, List.forall_mem_cons, Prod.ext_iff, true_and]

/-- An ordered list has no second entry under a key. -/
theorem Ordered.value_unique {key : String} {v w : α} {entries : List (String × α)}
    (h : Ordered entries) (hv : (key, v) ∈ entries) (hw : (key, w) ∈ entries) : v = w := by
  induction entries with
  | nil => simp at hv
  | cons head rest ih =>
    obtain ⟨k, u⟩ := head
    rcases List.mem_cons.mp hv with hv | hv
    · rcases List.mem_cons.mp hw with hw | hw
      · exact (Prod.mk.inj hv).2.trans (Prod.mk.inj hw).2.symm
      · exact absurd (Prod.mk.inj hv).1 (h.key_ne _ hw)
    · rcases List.mem_cons.mp hw with hw | hw
      · exact absurd (Prod.mk.inj hw).1 (h.key_ne _ hv)
      · exact ih h.tail hv hw

/-! ## Where insertion puts an entry -/

theorem insert_eq_cons {key : String} {value : α} {entries : List (String × α)}
    (h : ∀ e ∈ entries, key < e.1) : insert key value entries = (key, value) :: entries := by
  cases entries with
  | nil => rfl
  | cons head rest =>
    have hlt : key < head.1 := h head List.mem_cons_self
    simp only [insert, hlt, if_pos]

theorem insert_cons_of_lt {key k : String} {value v : α} {rest : List (String × α)} (h : k < key) :
    insert key value ((k, v) :: rest) = (k, v) :: insert key value rest := by
  have hnlt : ¬ key < k := fun hlt => String.lt_irrefl k (String.lt_trans h hlt)
  have hne : ¬ key = k := fun he => String.lt_irrefl k (he ▸ h)
  simp only [insert, hnlt, hne, if_false]

theorem insert_eq_append {key : String} {value : α} {entries : List (String × α)}
    (h : ∀ e ∈ entries, e.1 < key) : insert key value entries = entries ++ [(key, value)] := by
  induction entries with
  | nil => rfl
  | cons head rest ih =>
    rw [insert_cons_of_lt (h head List.mem_cons_self),
      ih fun e he => h e (List.mem_cons_of_mem _ he), List.cons_append]

/-! ## Entering pairs -/

theorem mem_of_mem_insert {key : String} {value : α} {entries : List (String × α)} {e : String × α}
    (h : e ∈ insert key value entries) : e = (key, value) ∨ e ∈ entries := by
  induction entries with
  | nil => simpa [insert] using h
  | cons head rest ih =>
    simp only [insert] at h
    split at h
    · exact List.mem_cons.mp h
    · split at h
      · exact (List.mem_cons.mp h).imp_right (List.mem_cons_of_mem _)
      · rcases List.mem_cons.mp h with rfl | h
        · exact Or.inr List.mem_cons_self
        · exact (ih h).imp_right (List.mem_cons_of_mem _)

theorem mem_of_mem_foldl_insert {pairs entries : List (String × α)} {e : String × α}
    (h : e ∈ pairs.foldl (fun entries (k, v) => insert k v entries) entries) :
    e ∈ pairs ∨ e ∈ entries := by
  induction pairs generalizing entries with
  | nil => exact Or.inr h
  | cons head rest ih =>
    rcases ih h with hrest | hin
    · exact Or.inl (List.mem_cons_of_mem _ hrest)
    · rcases mem_of_mem_insert hin with rfl | hin
      · exact Or.inl List.mem_cons_self
      · exact Or.inr hin

/-- Entering pairs invents none. -/
theorem mem_of_mem_ofList {pairs : List (String × α)} {e : String × α} (h : e ∈ ofList pairs) :
    e ∈ pairs := by
  rcases mem_of_mem_foldl_insert h with h | h
  · exact h
  · simp at h

/-- Entering pairs behind entries that they continue in order. -/
theorem foldl_insert_eq_append (pairs entries : List (String × α))
    (h : Ordered (entries ++ pairs)) :
    pairs.foldl (fun entries (k, v) => insert k v entries) entries = entries ++ pairs := by
  induction pairs generalizing entries with
  | nil => simp
  | cons head rest ih =>
    obtain ⟨k, v⟩ := head
    have hbelow : ∀ e ∈ entries, e.1 < k := fun e he =>
      (List.pairwise_append.mp h).2.2 e he (k, v) List.mem_cons_self
    have hrest : Ordered ((entries ++ [(k, v)]) ++ rest) := by simpa using h
    simp only [List.foldl_cons, insert_eq_append hbelow]
    rw [ih _ hrest, List.append_assoc, List.singleton_append]

theorem ofList_eq_self {pairs : List (String × α)} (h : Ordered pairs) : ofList pairs = pairs :=
  foldl_insert_eq_append pairs [] h

/-- An entry that is taken out and inserted again comes back to its place. -/
theorem insert_filter_ne {key : String} {value : α} {entries : List (String × α)}
    (h : Ordered entries) (hmem : (key, value) ∈ entries) :
    insert key value (entries.filter fun e => e.1 != key) = entries := by
  induction entries with
  | nil => simp at hmem
  | cons head rest ih =>
    obtain ⟨k, v⟩ := head
    by_cases hk : k = key
    · subst hk
      have hv : value = v := h.value_unique hmem List.mem_cons_self
      have hkeep : rest.filter (fun e => e.1 != k) = rest := by
        rw [List.filter_eq_self]
        intro e he
        exact bne_iff_ne.mpr (h.key_ne e he)
      rw [List.filter_cons_of_neg (by simp), hkeep, hv, insert_eq_cons h.head_lt]
    · have hrest : (key, value) ∈ rest := by
        rcases List.mem_cons.mp hmem with heq | hrest
        · exact absurd (Prod.mk.inj heq).1.symm hk
        · exact hrest
      have hlt : k < key := h.head_lt _ hrest
      rw [List.filter_cons_of_pos (by simpa using hk), insert_cons_of_lt hlt, ih h.tail hrest]

/-- A new key can be taken out again. -/
theorem filter_ne_insert {key : String} {value : α} {entries : List (String × α)}
    (h : ∀ e ∈ entries, e.1 ≠ key) :
    (insert key value entries).filter (fun e => e.1 != key) = entries := by
  induction entries with
  | nil => simp [insert]
  | cons head rest ih =>
    have hhead : head.1 ≠ key := h head List.mem_cons_self
    have hrest : ∀ e ∈ rest, e.1 ≠ key := fun e he => h e (List.mem_cons_of_mem _ he)
    have hkeep : rest.filter (fun e => e.1 != key) = rest := by
      rw [List.filter_eq_self]
      intro e he
      exact bne_iff_ne.mpr (hrest e he)
    simp only [insert, Ne.symm hhead, if_false]
    split
    · simp [hhead, hkeep]
    · simp [hhead, ih hrest]

theorem mem_insert_self (key : String) (value : α) (entries : List (String × α)) :
    (key, value) ∈ insert key value entries := by
  induction entries with
  | nil => simp [insert]
  | cons head rest ih =>
    simp only [insert]
    split
    · exact List.mem_cons_self
    · split
      · exact List.mem_cons_self
      · exact List.mem_cons_of_mem _ ih

/-! ## Sorting by key -/

/-- The entries in the order of their keys; those under one key stay in the order that they have. -/
def sorted (entries : List (String × α)) : List (String × α) :=
  entries.mergeSort fun a b => decide (a.1 ≤ b.1)

theorem sorted_perm (entries : List (String × α)) : (sorted entries).Perm entries :=
  List.mergeSort_perm entries _

/-- Two ordered lists with the same entries are the same list. -/
theorem Ordered.eq_of_perm {entries others : List (String × α)} (h : Ordered entries)
    (hothers : Ordered others) (hperm : entries.Perm others) : entries = others :=
  hperm.eq_of_pairwise (fun _ _ _ _ hlt hgt => absurd hgt (String.lt_asymm hlt)) h hothers

theorem Ordered.keys_nodup {entries : List (String × α)} (h : Ordered entries) :
    (entries.map (·.1)).Nodup := by
  rw [List.Nodup, List.pairwise_map]
  refine h.imp fun {a b} hlt heq => ?_
  exact String.lt_irrefl b.1 (heq ▸ hlt)

theorem ordered_sorted {entries : List (String × α)} (h : (entries.map (·.1)).Nodup) :
    Ordered (sorted entries) := by
  have hle : (sorted entries).Pairwise fun a b => a.1 ≤ b.1 := by
    have hsort : (sorted entries).Pairwise fun a b => decide (a.1 ≤ b.1) = true := by
      apply List.pairwise_mergeSort
      · intro a b c hab hbc
        simp only [decide_eq_true_eq] at hab hbc ⊢
        exact String.le_trans hab hbc
      · intro a b
        simpa using String.le_total a.1 b.1
    exact hsort.imp fun hab => of_decide_eq_true hab
  have hne : (sorted entries).Pairwise fun a b => a.1 ≠ b.1 := by
    rw [← List.pairwise_map (f := fun e : String × α => e.1) (R := (· ≠ ·))]
    exact ((sorted_perm entries).map _).nodup_iff.mpr h
  refine (hle.and hne).imp fun ⟨hab, hab'⟩ => ?_
  exact String.not_le.mp fun hba => hab' (String.le_antisymm hab hba)

/-- Entering a pair under a new key adds this pair and nothing else. -/
theorem insert_perm_cons {key : String} {value : α} {entries : List (String × α)}
    (h : ∀ e ∈ entries, e.1 ≠ key) : (insert key value entries).Perm ((key, value) :: entries) := by
  induction entries with
  | nil => exact .refl _
  | cons head rest ih =>
    have hhead : ¬ key = head.1 := Ne.symm (h head List.mem_cons_self)
    simp only [insert, hhead, if_false]
    split
    · exact .refl _
    · have hrest := ih fun e he => h e (List.mem_cons_of_mem _ he)
      exact (hrest.cons head).trans (.swap (key, value) head rest)

theorem foldl_insert_perm {pairs entries : List (String × α)}
    (h : ((entries ++ pairs).map (·.1)).Nodup) :
    (pairs.foldl (fun entries (k, v) => insert k v entries) entries).Perm (entries ++ pairs) := by
  induction pairs generalizing entries with
  | nil => simp
  | cons head rest ih =>
    obtain ⟨k, v⟩ := head
    have hmiddle : (((k, v) :: entries ++ rest).map (·.1)).Nodup :=
      (List.perm_middle.symm.map _).nodup_iff.mpr h
    have hnew : ∀ e ∈ entries, e.1 ≠ k := by
      intro e he heq
      rw [List.cons_append, List.map_cons, List.nodup_cons] at hmiddle
      exact hmiddle.1 (List.mem_map.mpr ⟨e, List.mem_append_left _ he, heq⟩)
    have hinsert : (insert k v entries ++ rest).Perm ((k, v) :: entries ++ rest) :=
      (insert_perm_cons hnew).append_right rest
    have hfold := ih ((hinsert.map _).nodup_iff.mpr hmiddle)
    exact (hfold.trans hinsert).trans List.perm_middle.symm

/-- Entering pairs loses none of them if no key is repeated. -/
theorem ofList_perm {pairs : List (String × α)} (h : (pairs.map (·.1)).Nodup) :
    (ofList pairs).Perm pairs := by
  have hstart : ((([] : List (String × α)) ++ pairs).map (·.1)).Nodup := h
  exact foldl_insert_perm hstart

/-- Entering pairs is sorting them if no key is repeated. -/
theorem ofList_eq_sorted {pairs : List (String × α)} (h : (pairs.map (·.1)).Nodup) :
    ofList pairs = sorted pairs :=
  (ordered_ofList pairs).eq_of_perm (ordered_sorted h)
    ((ofList_perm h).trans (sorted_perm pairs).symm)

/-- The order in which pairs are entered does not show if no key is repeated. -/
theorem ofList_eq_of_perm {pairs others : List (String × α)} (hperm : pairs.Perm others)
    (h : (pairs.map (·.1)).Nodup) : ofList pairs = ofList others := by
  have hothers : (others.map (·.1)).Nodup := (hperm.map _).nodup_iff.mp h
  exact (ordered_ofList pairs).eq_of_perm (ordered_ofList others)
    (((ofList_perm h).trans hperm).trans (ofList_perm hothers).symm)

/-- Sorting looks at the keys alone. -/
theorem sorted_map (f : String × α → β) (entries : List (String × α)) :
    sorted (entries.map fun e => (e.1, f e)) = (sorted entries).map fun e => (e.1, f e) := by
  unfold sorted
  exact (List.map_mergeSort (f := fun e => (e.1, f e)) fun _ _ _ _ => rfl).symm

theorem sorted_eq_self {entries : List (String × α)} (h : Ordered entries) :
    sorted entries = entries :=
  (ordered_sorted h.keys_nodup).eq_of_perm h (sorted_perm entries)

/-! ## Looking up -/

theorem get?_append (key : String) (entries others : List (String × α)) :
    get? key (entries ++ others) = (get? key entries).or (get? key others) := by
  induction entries with
  | nil => simp [get?]
  | cons head rest ih =>
    by_cases hkey : key = head.1
    · simp [get?, hkey]
    · simp [get?, hkey, ih]

theorem get?_filter_ne (key other : String) (entries : List (String × α)) :
    get? key (entries.filter fun e => e.1 != other)
      = if key = other then none else get? key entries := by
  induction entries with
  | nil => simp [get?]
  | cons head rest ih =>
    by_cases hother : head.1 = other
    · rw [List.filter_cons_of_neg (by simpa using hother), ih]
      split
      · rfl
      · next hkey => rw [get?, if_neg (fun h => hkey (h.trans hother))]
    · rw [List.filter_cons_of_pos (by simpa using hother), get?, ih]
      by_cases hkey : key = head.1
      · simp [get?, hkey, hother]
      · simp [get?, hkey]

/-- Insertion sets the value of its key and no other. -/
theorem get?_insert (key other : String) (value : α) (entries : List (String × α)) :
    get? other (insert key value entries) = if other = key then some value else get? other entries := by
  induction entries with
  | nil => rfl
  | cons head rest ih =>
    obtain ⟨k, v⟩ := head
    simp only [insert]
    split
    · rfl
    · split
      · next heq =>
        subst heq
        simp only [get?]
        by_cases hother : other = key <;> simp [hother]
      · next hne =>
        simp only [get?, ih]
        by_cases hother : other = k
        · subst hother
          simp [Ne.symm hne]
        · simp [hother]

theorem get?_map (f : α → β) (key : String) (entries : List (String × α)) :
    get? key (entries.map fun e => (e.1, f e.2)) = (get? key entries).map f := by
  induction entries with
  | nil => rfl
  | cons head rest ih =>
    by_cases hkey : key = head.1 <;> simp [get?, hkey, ih]

theorem isSome_get?_iff {key : String} {entries : List (String × α)} :
    (get? key entries).isSome = true ↔ key ∈ entries.map (·.1) := by
  induction entries with
  | nil => simp [get?]
  | cons head rest ih =>
    by_cases hkey : key = head.1
    · simp [get?, hkey]
    · rw [get?, if_neg hkey, ih, List.map_cons, List.mem_cons]
      exact ⟨Or.inr, fun h => h.resolve_left hkey⟩

/-- Of the pairs that are entered under a key the last one stays, and without one what was there before. -/
theorem get?_foldl_insert (key : String) (pairs entries : List (String × α)) :
    get? key (pairs.foldl (fun entries (k, v) => insert k v entries) entries)
      = (get? key pairs.reverse).or (get? key entries) := by
  induction pairs generalizing entries with
  | nil => rfl
  | cons head rest ih =>
    rw [List.foldl_cons, ih, get?_insert, List.reverse_cons, get?_append, Option.or_assoc]
    congr 1
    by_cases hkey : key = head.1 <;> simp [get?, hkey]

/-- Entering pairs makes their keys and no others. -/
theorem mem_keys_ofList {key : String} {pairs : List (String × α)} :
    key ∈ (ofList pairs).map (·.1) ↔ key ∈ pairs.map (·.1) := by
  rw [← isSome_get?_iff, ofList, get?_foldl_insert, get?, Option.or_none, isSome_get?_iff,
    List.map_reverse, List.mem_reverse]

/-- Where no key is repeated, an entry is found under its key. -/
theorem mem_iff_get?_eq_some {entries : List (String × α)} (h : (entries.map (·.1)).Nodup)
    {key : String} {value : α} : (key, value) ∈ entries ↔ get? key entries = some value := by
  induction entries with
  | nil => simp [get?]
  | cons head rest ih =>
    obtain ⟨k, v⟩ := head
    obtain ⟨hnew, hrest⟩ := List.nodup_cons.mp h
    rw [get?, List.mem_cons]
    by_cases hkey : key = k
    · subst hkey
      have hnot : (key, value) ∉ rest := fun hmem => hnew (List.mem_map.mpr ⟨_, hmem, rfl⟩)
      simp [hnot, eq_comm]
    · simp [hkey, ih hrest]

/-- Entering pairs keeps the value of every key if no key is repeated. -/
theorem get?_ofList {pairs : List (String × α)} (h : (pairs.map (·.1)).Nodup) (key : String) :
    get? key (ofList pairs) = get? key pairs := by
  apply Option.ext
  intro value
  rw [← mem_iff_get?_eq_some (ordered_ofList pairs).keys_nodup, (ofList_perm h).mem_iff,
    mem_iff_get?_eq_some h]

theorem nodup_of_keys_nodup {entries : List (String × α)} (h : (entries.map (·.1)).Nodup) :
    entries.Nodup :=
  (List.pairwise_map.mp h).imp fun hne heq => hne (congrArg Prod.fst heq)

/-- Where no key is repeated, the same values under all keys are the same entries. -/
theorem perm_of_get?_eq {entries others : List (String × α)} (h : (entries.map (·.1)).Nodup)
    (hothers : (others.map (·.1)).Nodup) (hget : ∀ key, get? key entries = get? key others) :
    entries.Perm others := by
  rw [List.perm_ext_iff_of_nodup (nodup_of_keys_nodup h) (nodup_of_keys_nodup hothers)]
  rintro ⟨key, value⟩
  rw [mem_iff_get?_eq_some h, mem_iff_get?_eq_some hothers, hget]

/-! ## Related entries -/

variable {R : String × α → String × β → Prop}

/-- Inserting related values under one key into related entries. -/
theorem forall₂_insert (hkeys : ∀ a b, R a b → a.1 = b.1) {key : String} {v : α} {w : β}
    {entries : List (String × α)} {others : List (String × β)} (h : List.Forall₂ R entries others)
    (hvw : R (key, v) (key, w)) : List.Forall₂ R (insert key v entries) (insert key w others) := by
  induction h with
  | nil => exact .cons hvw .nil
  | @cons a b rest rest' hab hrest ih =>
    obtain ⟨k, x⟩ := a
    obtain ⟨k', y⟩ := b
    obtain rfl : k = k' := hkeys _ _ hab
    simp only [insert]
    split
    · exact .cons hvw (.cons hab hrest)
    · split
      · exact .cons hvw hrest
      · exact .cons hab ih

/-- Entering related pairs. -/
theorem forall₂_ofList (hkeys : ∀ a b, R a b → a.1 = b.1) {pairs : List (String × α)}
    {others : List (String × β)} (h : List.Forall₂ R pairs others) :
    List.Forall₂ R (ofList pairs) (ofList others) := by
  refine List.rel_foldl (P := List.Forall₂ R) ?_ .nil h
  rintro entries entries' hentries ⟨k, v⟩ ⟨k', w⟩ hvw
  obtain rfl : k = k' := hkeys _ _ hvw
  exact forall₂_insert hkeys hentries hvw

end Gleaner.Entries
