import ArenaData.Keyed

/-!
# First occurrences

The first items of a list with keys are its first item and, of the first items of the rest, those
with another key (`firsts_cons`); what is said of first items here follows the list in this way.
Their keys are the keys of the list without later repeats. Where the keys are numbered, they are
those of the numbers that come first with their key. Taking first occurrences before lists are put
together changes nothing in what is left afterwards.
-/

namespace ArenaData.Keyed

variable {α β : Type}

/-! ## First items -/

/-- Items may be chosen by their keys before or after later repeats go. -/
theorem firsts_filter (key : α → Text) (p : Text → Bool) (items : List α) :
    firsts key (items.filter fun item => p (key item)) =
      (firsts key items).filter fun item => p (key item) := by
  simp only [firsts_eq_eraseDupsBy]
  induction items generalizing p with
  | nil => rfl
  | cons item rest ih =>
    -- What is left behind an item: the induction hypothesis, for keys other than its own.
    have hrest (l : List α) : (l.filter fun b => (key b == key item) = false) =
        l.filter fun b => decide (key b ≠ key item) :=
      List.filter_congr fun b _ => by simp
    have hother := ih fun k => decide (k ≠ key item)
    rw [List.eraseDupsBy_cons, hrest, hother]
    by_cases h : p (key item) = true
    · have hboth := ih fun k => decide (k ≠ key item) && p k
      rw [List.filter_cons, if_pos h, List.filter_cons, if_pos h, List.eraseDupsBy_cons, hrest,
        List.filter_filter, hboth, List.filter_filter]
      simp only [Bool.and_comm]
    · rw [List.filter_cons, if_neg h, List.filter_cons, if_neg h, ih p, List.filter_filter]
      refine List.filter_congr fun b _ => ?_
      by_cases hb : key b = key item
      · simp [hb, h]
      · simp [hb]

theorem firsts_cons (key : α → Text) (item : α) (rest : List α) :
    firsts key (item :: rest) = item :: (firsts key rest).filter fun b => key b ≠ key item := by
  have hother := firsts_filter key (fun k => decide (k ≠ key item)) rest
  rw [firsts_eq_eraseDupsBy, List.eraseDupsBy_cons, ← firsts_eq_eraseDupsBy, ← hother]
  refine congrArg (fun l => item :: firsts key l) (List.filter_congr fun b _ => ?_)
  simp

theorem firsts_id (items : List Text) : firsts id items = items.eraseDups := by
  rw [firsts_eq_eraseDupsBy]
  rfl

/-- The keys of the first items are the keys without later repeats. -/
theorem map_firsts (key : α → Text) (items : List α) :
    (firsts key items).map key = (items.map key).eraseDups := by
  rw [← firsts_id]
  induction items with
  | nil => rfl
  | cons item rest ih =>
    rw [List.map_cons, firsts_cons, firsts_cons, List.map_cons, ← ih, List.filter_map]
    rfl

theorem mem_map_firsts {key : α → Text} {items : List α} {k : Text} :
    k ∈ (firsts key items).map key ↔ k ∈ items.map key := by
  rw [map_firsts, List.mem_eraseDups]

theorem firsts_sublist (key : α → Text) (items : List α) : (firsts key items).Sublist items := by
  induction items with
  | nil => exact List.Sublist.refl []
  | cons item rest ih =>
    rw [firsts_cons]
    exact (List.filter_sublist.trans ih).cons_cons item

theorem firsts_of_nodup {key : α → Text} {items : List α} (h : (items.map key).Nodup) :
    firsts key items = items := by
  induction items with
  | nil => rfl
  | cons item rest ih =>
    rw [List.map_cons, List.nodup_cons] at h
    rw [firsts_cons, ih h.2, List.filter_eq_self.mpr]
    intro other hother
    have hne : key other ≠ key item := fun e => h.1 (e ▸ List.mem_map_of_mem hother)
    simpa using hne

theorem firsts_map (key : β → Text) (f : α → β) (items : List α) :
    firsts key (items.map f) = (firsts (key ∘ f) items).map f := by
  induction items with
  | nil => rfl
  | cons item rest ih =>
    rw [List.map_cons, firsts_cons, firsts_cons, List.map_cons, ih, List.filter_map]
    rfl

/-- Of two lists put together, the second adds the keys that are new. -/
theorem firsts_append (key : α → Text) (front back : List α) :
    firsts key (front ++ back) =
      firsts key front ++ (firsts key back).filter fun item => key item ∉ front.map key := by
  induction front with
  | nil => exact (List.filter_eq_self.mpr fun item _ => by simp).symm
  | cons item rest ih =>
    rw [List.cons_append, firsts_cons, firsts_cons, ih, List.filter_append, List.filter_filter,
      List.cons_append]
    congr 2
    refine List.filter_congr fun b _ => ?_
    simp

/-- Under a key, the first item with it is found among the first items. -/
theorem find?_firsts (key : α → Text) (items : List α) (k : Text) :
    (firsts key items).find? (key · == k) = items.find? (key · == k) := by
  induction items with
  | nil => rfl
  | cons item rest ih =>
    rw [firsts_cons, List.find?_cons, List.find?_cons]
    by_cases hk : key item = k
    · simp [hk]
    · have hpass : (key item == k) = false := by simpa using hk
      simp only [hpass]
      rw [List.find?_filter, ← ih]
      congr 1
      funext b
      by_cases hb : key b = k
      · simp [hb, Ne.symm hk]
      · simp [hb]

/-- The first items are those that are found under their keys. -/
theorem mem_firsts_iff {key : α → Text} {items : List α} {item : α} :
    item ∈ firsts key items ↔ items.find? (key · == key item) = some item := by
  induction items with
  | nil => simp [firsts, firstsFrom]
  | cons first rest ih =>
    rw [firsts_cons, List.mem_cons, List.mem_filter, ih, List.find?_cons]
    by_cases hkey : key first = key item
    · simp [hkey, eq_comm]
    · have hne : item ≠ first := fun e => hkey (e ▸ rfl)
      have hpass : (key first == key item) = false := by simpa using hkey
      simp [hpass, hne, Ne.symm hkey]

/-- Of numbered keys, those are left whose number comes first with its key. -/
theorem eraseDups_map_range (key : Nat → Text) (n : Nat) :
    ((List.range n).map key).eraseDups =
      ((List.range n).filter fun k => ∀ j < k, key j ≠ key k).map key := by
  induction n with
  | zero => rfl
  | succ n ih =>
    rw [List.range_succ, List.map_append, List.eraseDups_append, ih, List.filter_append,
      List.map_append]
    congr 1
    rw [List.map_singleton]
    by_cases h : ∀ j < n, key j ≠ key n
    · have hkey : [key n].removeAll ((List.range n).map key) = [key n] := by
        simpa [List.removeAll, List.filter_cons] using h
      have hnum : [n].filter (fun k => ∀ j < k, key j ≠ key k) = [n] := by
        simpa [List.filter_cons] using h
      rw [hkey, hnum]
      rfl
    · have hkey : [key n].removeAll ((List.range n).map key) = [] := by
        simpa [List.removeAll, List.filter_cons] using h
      have hnum : [n].filter (fun k => ∀ j < k, key j ≠ key k) = [] := by
        simpa [List.filter_cons] using h
      rw [hkey, hnum]
      rfl

/-! ## First occurrences of lists put together -/

theorem eraseDups_filter (p : Text → Bool) (l : List Text) :
    (l.filter p).eraseDups = l.eraseDups.filter p := by
  have hfirsts := firsts_filter id p l
  simpa only [id_eq, firsts_id] using hfirsts

theorem nodup_eraseDups (l : List Text) : l.eraseDups.Nodup := by
  induction l with
  | nil => exact List.nodup_nil
  | cons a l ih =>
    rw [List.eraseDups_cons, eraseDups_filter, List.nodup_cons]
    refine ⟨fun h => ?_, ih.filter _⟩
    simpa using (List.mem_filter.mp h).2

theorem eraseDups_of_nodup {l : List Text} (h : l.Nodup) : l.eraseDups = l := by
  have hid : (l.map id).Nodup := by rwa [List.map_id]
  rw [← firsts_id, firsts_of_nodup hid]

/-- What is left of lists that are put together depends only on what is left of each. -/
theorem eraseDups_append_congr {a a' b b' : List Text} (ha : a.eraseDups = a'.eraseDups)
    (hb : b.eraseDups = b'.eraseDups) : (a ++ b).eraseDups = (a' ++ b').eraseDups := by
  have hmem (x : Text) : x ∈ a ↔ x ∈ a' := by
    rw [← List.mem_eraseDups, ha, List.mem_eraseDups]
  have hremove (l : List Text) : l.removeAll a = l.removeAll a' :=
    List.filter_congr fun x _ => by simp [hmem x]
  rw [List.eraseDups_append, List.eraseDups_append, ha, ← hremove]
  show _ ++ (b.filter _).eraseDups = _ ++ (b'.filter _).eraseDups
  rw [eraseDups_filter, eraseDups_filter, hb]

/-! ## Entries -/

/-- Where keys do not repeat, what is found under a key is what stands under it. -/
theorem lookup_eq_some_iff {entries : List (Text × β)} (h : (entries.map Prod.fst).Nodup)
    {key : Text} {value : β} : entries.lookup key = some value ↔ (key, value) ∈ entries := by
  induction entries with
  | nil => simp
  | cons entry rest ih =>
    obtain ⟨first, text⟩ := entry
    rw [List.map_cons, List.nodup_cons] at h
    rw [List.lookup_cons, List.mem_cons]
    by_cases hkey : key = first
    · subst hkey
      have hrest : (key, value) ∉ rest := fun hmem =>
        h.1 (List.mem_map.mpr ⟨(key, value), hmem, rfl⟩)
      simp [hrest, eq_comm]
    · have hpass : (key == first) = false := by simpa using hkey
      simp [hpass, hkey, ih h.2]

theorem lookup_eq_none_iff {entries : List (Text × β)} {key : Text} :
    entries.lookup key = none ↔ key ∉ entries.map Prod.fst := by
  rw [List.lookup_eq_none_iff]
  simp only [bne_iff_ne, List.mem_map, not_exists, not_and]
  exact ⟨fun h entry hmem e => h entry hmem e.symm, fun h entry hmem e => h entry hmem e.symm⟩

end ArenaData.Keyed
