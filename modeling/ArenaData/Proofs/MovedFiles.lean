import ArenaData.Proofs.SoundTrees

/-!
# Moved files

A path without a way back leads to the place that its names spell, if it leads anywhere. So it can
be said by the paths alone what a file that is moved to another one's place changes: what is at the
source goes, what is below the target may be anything, and every other place stays as it is
(`node?_displace`). Nothing is assumed of the tree, which may hold a file with something below it.
-/

namespace ArenaData.FileTree

variable {t changed : FileTree} {p source target : Path} {place other inner : Place}
  {names : List Text}

/-! ## Where paths lead -/

/-- Names that do not lead back lead to the place that they spell. -/
theorem follow_eq (h : t.follow place names = .ok inner) (hup : Path.dotDot ∉ names) :
    inner = place ++ names := by
  fun_induction FileTree.follow t place names with
  | case1 => rw [List.append_nil, Except.ok.inj h]
  | case2 => exact absurd List.mem_cons_self hup
  | case3 => cases h
  | case4 place name _ _ _ _ _ _ _ ih =>
    rw [ih h (List.not_mem_of_not_mem_cons hup)]
    exact (List.append_cons place name _).symm
  | case5 => cases h
  | case6 => cases h

theorem placeOf_eq (h : t.placeOf p = .ok place) (hup : Path.dotDot ∉ p.parts) :
    place = t.startOf p ++ p.parts := by
  obtain ⟨-, -, hfollow⟩ := bind_eq_ok.mp h
  exact follow_eq hfollow hup

theorem filePlace_eq (h : t.filePlace p = .ok place) (hup : Path.dotDot ∉ p.parts) :
    place = t.startOf p ++ p.parts ∧ p.parts ≠ [] := by
  obtain ⟨-, -, h⟩ := bind_eq_ok.mp h
  obtain ⟨around, hfollow, h⟩ := bind_eq_ok.mp h
  have haround := follow_eq hfollow fun hmem => hup (List.dropLast_subset _ hmem)
  split at h
  · rename_i name _ hname
    split at h
    · cases h
    · split at h
      · cases h
      · obtain rfl := Except.ok.inj h
        obtain ⟨front, hfront⟩ := List.getLast?_eq_some_iff.mp hname
        rw [haround, Path.parent, hfront, List.dropLast_concat, List.append_assoc]
        exact ⟨rfl, by simp⟩
  · cases h
  · cases h

/-! ## Moving -/

/-- Entries that are renamed one by one: none of them comes to a place or leaves it, so what is
there stays. -/
theorem getElem?_renamed (rename : Place × Node → Place × Node) (entries : List (Place × Node))
    (before after : Std.TreeMap Place Node)
    (hrename : ∀ entry : Place × Node, (entry.1 = place → rename entry = entry) ∧
      (entry.1 ≠ place → (rename entry).1 ≠ place))
    (h : after[place]? = before[place]?) :
    (after.insertMany (entries.map rename))[place]? = (before.insertMany entries)[place]? := by
  induction entries generalizing before after with
  | nil => exact h
  | cons entry entries ih =>
    rw [List.map_cons, Std.TreeMap.insertMany_cons, Std.TreeMap.insertMany_cons]
    apply ih
    obtain ⟨hstays, hleaves⟩ := hrename entry
    by_cases hentry : entry.1 = place
    · rw [hstays hentry, ← hentry, Std.TreeMap.getElem?_insert_self,
        Std.TreeMap.getElem?_insert_self]
    · simpa [Std.TreeMap.getElem?_insert, hentry, hleaves hentry] using h

theorem getElem?_ofList_of_notMem {entries : List (Place × Node)}
    (h : place ∉ entries.map Prod.fst) :
    (Std.TreeMap.ofList entries compare)[place]? = none :=
  Std.TreeMap.getElem?_ofList_of_contains_eq_false (by simpa using h)

theorem getElem?_ofList_toList (nodes : Std.TreeMap Place Node) (place : Place) :
    (Std.TreeMap.ofList nodes.toList compare)[place]? = nodes[place]? := by
  cases hnode : nodes[place]? with
  | some node =>
    exact Std.TreeMap.getElem?_ofList_of_mem Std.ReflCmp.compare_self
      Std.TreeMap.distinct_keys_toList (Std.TreeMap.mem_toList_iff_getElem?_eq_some.mpr hnode)
  | none =>
    apply getElem?_ofList_of_notMem
    intro hmem
    obtain ⟨⟨inner, node⟩, hentry, rfl⟩ := List.mem_map.mp hmem
    rw [Std.TreeMap.mem_toList_iff_getElem?_eq_some, hnode] at hentry
    cases hentry

/-- Below the source nothing is left, and elsewhere only what is below the target changes. -/
theorem node?_move (t : FileTree) {source target : Place} (hsource : source ≠ [])
    (htarget : ¬ target <+: place) :
    (t.move source target).node? place = if source <+: place then none else t.node? place := by
  have hmoved (rest : Place) : target ++ rest ≠ place := fun h => htarget ⟨rest, h⟩
  by_cases hnil : place = []
  · rw [hnil, if_neg (fun h => hsource (List.prefix_nil.mp h)), node?_nil, node?_nil]
  simp only [node?, List.isEmpty_eq_false_iff.mpr hnil, Bool.false_eq_true, if_false]
  split
  · rename_i hbelow
    apply getElem?_ofList_of_notMem
    intro hmem
    obtain ⟨entry, hentry, hplace⟩ := List.mem_map.mp hmem
    obtain ⟨⟨inner, node⟩, -, rfl⟩ := List.mem_map.mp hentry
    simp only at hplace
    split at hplace
    · exact hmoved _ hplace
    · rename_i hnot
      exact hnot (List.isPrefixOf_iff_prefix.mpr (hplace ▸ hbelow))
  · rename_i hbelow
    rw [← getElem?_ofList_toList t.nodes, move, Std.TreeMap.ofList_eq_insertMany_empty,
      Std.TreeMap.ofList_eq_insertMany_empty]
    refine getElem?_renamed _ _ _ _ ?_ rfl
    rintro ⟨inner, node⟩
    by_cases hinner : source <+: inner
    · have hne : inner ≠ place := fun h => hbelow (h ▸ hinner)
      simp [List.isPrefixOf_iff_prefix.mpr hinner, hne, hmoved]
    · simp [List.isPrefixOf_iff_prefix, hinner]

/-! ## Displacing -/

theorem workPlace_remove (h : t.remove p = .ok changed) : changed.workPlace = t.workPlace := by
  obtain ⟨place, -, h⟩ := bind_eq_ok.mp h
  split at h
  · cases h
  · cases h
  · rw [← Except.ok.inj h]

/-- Only what is at the path goes. -/
theorem node?_remove (h : t.remove p = .ok changed) (hup : Path.dotDot ∉ p.parts)
    (hother : other ≠ t.startOf p ++ p.parts) : changed.node? other = t.node? other := by
  obtain ⟨place, hplace, h⟩ := bind_eq_ok.mp h
  obtain ⟨rfl, hparts⟩ := filePlace_eq hplace hup
  split at h
  · cases h
  · cases h
  · rw [← Except.ok.inj h, node?_erase t other (by simp [hparts]), if_neg hother]

/-- What is displaced goes, and else only what is below the target changes. -/
theorem node?_displace (place : Place) (h : t.displace source target = .ok changed)
    (hsource : Path.dotDot ∉ source.parts) (htarget : Path.dotDot ∉ target.parts)
    (hparts : source.parts ≠ []) (hplace : ¬ t.startOf target ++ target.parts <+: place) :
    changed.workPlace = t.workPlace ∧ (changed.node? place = t.node? place ∨
      t.startOf source ++ source.parts <+: place ∧ changed.node? place = none) := by
  -- the move itself, once what was at the target has been removed
  have hmove : ∀ cleared : FileTree, cleared.workPlace = t.workPlace →
      cleared.node? place = t.node? place →
      (do pure (cleared.move (← cleared.placeOf source) (← cleared.filePlace target))) =
        Except.ok changed →
      changed.workPlace = t.workPlace ∧ (changed.node? place = t.node? place ∨
        t.startOf source ++ source.parts <+: place ∧ changed.node? place = none) := by
    intro cleared hwork hnode h
    have hstart (p : Path) : cleared.startOf p = t.startOf p := by rw [startOf, startOf, hwork]
    obtain ⟨start, hstarts, h⟩ := bind_eq_ok.mp h
    obtain ⟨goal, hends, h⟩ := bind_eq_ok.mp h
    obtain rfl := placeOf_eq hstarts hsource
    obtain ⟨rfl, -⟩ := filePlace_eq hends htarget
    rw [← Except.ok.inj h]
    refine ⟨hwork, ?_⟩
    rw [node?_move cleared (by simp [hparts]) (by rwa [hstart]), hstart]
    split
    · rename_i hbelow
      exact Or.inr ⟨hbelow, rfl⟩
    · exact Or.inl hnode
  obtain ⟨there, -, h⟩ := bind_eq_ok.mp h
  split at h
  · obtain ⟨occupied, -, h⟩ := bind_eq_ok.mp h
    split at h
    · obtain ⟨cleared, hremove, h⟩ := bind_eq_ok.mp h
      refine hmove cleared (workPlace_remove hremove) (node?_remove hremove htarget ?_) h
      rintro rfl
      exact hplace List.prefix_rfl
    · exact hmove t rfl rfl h
  · rw [← Except.ok.inj h]
    exact ⟨rfl, Or.inl rfl⟩

end ArenaData.FileTree
