import ArenaData.Proofs.ContainerPacking
import ArenaData.Proofs.DecodedTable
import Mathlib.Data.List.Perm.Subperm

/-!
# Loading packed files

How files are spread over a loose layer and a container behind it makes no difference to a load. In
both cases a query means at most one of the names, because no two of them have the same capitals,
and under that name the same data are found (`find_split`). So every read answers alike, up to the
place that the message of a missing file mentions, and so does the load.
-/

namespace ArenaData

namespace Collection

variable {files loose packed : Collection} {how : Matching} {name stored : Text}

/-- The files are spread over two layers, of which the first goes before the second: each file is in
one of them, or in both, and then it is the first one's. -/
structure Split (files loose packed : Collection) : Prop where
  nodup : files.names.Nodup
  nodup_loose : loose.names.Nodup
  nodup_packed : packed.names.Nodup
  lookup_eq : ∀ name, files.lookup name = (loose.lookup name).or (packed.lookup name)

theorem lookup_isSome_iff : (files.lookup name).isSome ↔ name ∈ files.names := by
  rw [Option.isSome_iff_ne_none, ne_eq, lookup_eq_none_iff, not_not]

theorem Split.loose_subset (h : Split files loose packed) : loose.names ⊆ files.names := by
  intro name hmem
  rw [← lookup_isSome_iff] at hmem ⊢
  rw [h.lookup_eq, Option.isSome_or, hmem, Bool.true_or]

theorem Split.packed_subset (h : Split files loose packed) : packed.names ⊆ files.names := by
  intro name hmem
  rw [← lookup_isSome_iff] at hmem ⊢
  rw [h.lookup_eq, Option.isSome_or, hmem, Bool.or_true]

theorem Split.length_packed_le (h : Split files loose packed) : packed.length ≤ files.length := by
  have hle := (List.subperm_of_subset h.nodup_packed h.packed_subset).length_le
  rwa [names, names, List.length_map, List.length_map] at hle

/-- Among names that differ in their capitals, a query that means `stored` finds in each part what
is stored there under just that name. -/
theorem find_eq_lookup {all part : Collection} (hcase : CaseUnique all.names)
    (hsub : part.names ⊆ all.names) (hnodup : part.names.Nodup) (hstored : stored ∈ all.names)
    (hagree : how.Agrees stored name) : part.find how name = part.lookup stored := by
  cases hlookup : part.lookup stored with
  | none =>
    refine find_eq_none_iff.mpr fun file hfile hother => ?_
    have hmem : file.1 ∈ part.names := List.mem_map_of_mem hfile
    -- Whatever else the query means here has the capitals of `stored`, so it is that name.
    have hsame : file.1 = stored := by
      cases how with
      | exact => exact hother.trans hagree.symm
      | anyCase => exact hcase _ (hsub hmem) _ hstored (hother.trans hagree.symm)
    exact lookup_eq_none_iff.mp hlookup (hsame ▸ hmem)
  | some data =>
    have hpart : CaseUnique part.names := fun x hx y hy => hcase x (hsub hx) y (hsub hy)
    obtain ⟨front, back, hpart', -⟩ := List.lookup_eq_some_iff.mp hlookup
    have hmem : (stored, data) ∈ part := hpart' ▸ List.mem_append_right _ List.mem_cons_self
    exact find_of_mem hnodup hpart hmem hagree

/-- What a query finds in the files, it finds in the first layer, or else in the second. -/
theorem find_split (hcase : CaseUnique files.names) (h : Split files loose packed)
    (how : Matching) (name : Text) :
    files.find how name = (loose.find how name).or (packed.find how name) := by
  by_cases hmeant : ∃ stored ∈ files.names, how.Agrees stored name
  · obtain ⟨stored, hstored, hagree⟩ := hmeant
    rw [find_eq_lookup hcase (List.Subset.refl _) h.nodup hstored hagree,
      find_eq_lookup hcase h.loose_subset h.nodup_loose hstored hagree,
      find_eq_lookup hcase h.packed_subset h.nodup_packed hstored hagree, h.lookup_eq]
  · have hnone {part : Collection} (hsub : part.names ⊆ files.names) :
        part.find how name = none := by
      rw [← Option.not_isSome_iff_eq_none, isSome_find_iff]
      exact fun ⟨stored, hmem, hagree⟩ => hmeant ⟨stored, hsub hmem, hagree⟩
    rw [hnone (List.Subset.refl _), hnone h.loose_subset, hnone h.packed_subset]
    rfl

end Collection

namespace Loader

open Collection (CaseUnique Split)

variable {files loose packed : Collection}

/-- Files that are spread over a loose layer and any container that holds the rest of them make the
same table as in one collection, or a fault of the same family. -/
theorem load_layered_container {c : Container} (hcase : CaseUnique files.names)
    (hsplit : Split files loose c.resources) (tree : FileTree) (sideData : SideData) :
    AgreeUpTo (fun f g => f.kind = g.kind)
      (load (Archive.reader tree) (new (.layered [.memory loose, .container c]) sideData)).1
      (load (Archive.reader tree) (new (.memory files) sideData)).1 := by
  have hlayered : Archive.BuiltOf (.layered [.memory loose, .container c]) [loose, c.resources] :=
    .layer (.leaf (.memory loose hsplit.nodup_loose)) (.layer (.leaf (.container c)) .empty)
  have hmemory : Archive.BuiltOf (.memory files) [files] := .leaf (.memory files hsplit.nodup)
  have hfirst (how : Matching) (name : Text) :
      Archive.firstMatch how name [loose, c.resources] = Archive.firstMatch how name [files] := by
    rw [Archive.firstMatch_cons, Archive.firstMatch_singleton, Archive.firstMatch_singleton,
      Collection.find_split hcase hsplit]
  have hread : AnswerAlike _ (fun f g => f.kind = g.kind) (Archive.reader tree)
      (Archive.reader tree) := answerAlike_of_firstMatch hlayered hmemory hfirst fun _ => rfl
  have hfaults := decodersFailOnly_of_refl (fun f g => f.kind = g.kind) (fun _ => rfl) sideData
  exact load_new_alike sideData ⟨rfl, rfl⟩ hread hfaults

/-- However files with names for containers are spread over a loose layer and a container that is
packed from the rest of them, the container is opened, and a load gives the same table as from one
collection of the files, or a fault of the same family. -/
theorem load_split (hnames : ∀ name ∈ files.names, Container.FitsName name)
    (hcase : CaseUnique files.names) (hcount : files.length ≤ 0xFFFF)
    (hsplit : Split files loose packed) (hsizes : ∀ file ∈ packed, file.2.length < 0x100000000)
    (label : Text) (tree : FileTree) (sideData : SideData) :
    ∃ c, Container.ofBytes (Container.pack packed) label = .ok c ∧
      AgreeUpTo (fun f g => f.kind = g.kind)
        (load (Archive.reader tree) (new (.layered [.memory loose, .container c]) sideData)).1
        (load (Archive.reader tree) (new (.memory files) sideData)).1 := by
  obtain ⟨c, hc, rfl⟩ := Container.ofBytes_pack label hsplit.nodup_packed
    (fun name hmem => hnames name (hsplit.packed_subset hmem)) hsizes
    (Nat.le_trans hsplit.length_packed_le hcount)
  exact ⟨c, hc, load_layered_container hcase hsplit tree sideData⟩

/-- The shortest files, but for a template file that is not to be read. -/
def coveredContent : GameFile → Bytes
  | .template => [0x23, 0x4B, 0x0A, 0x78, 0x0A]
  | file => file.leastContent

/-- The template file on its own. -/
def looseLeast : Collection := [(GameFile.template.name, [])]

/-- All files from the last to the first. -/
def packedLeast : Collection := (Collection.ofGame coveredContent).reverse

theorem split_least : Split (Collection.ofGame GameFile.leastContent) looseLeast packedLeast := by
  have hpacked : packedLeast.names.Nodup := by
    rw [packedLeast, Collection.names, List.map_reverse, List.nodup_reverse]
    exact Collection.nodup_ofGame coveredContent
  refine ⟨Collection.nodup_ofGame _, by decide, hpacked, fun name => ?_⟩
  by_cases hfile : ∃ file : GameFile, file.name = name
  · obtain ⟨file, rfl⟩ := hfile
    have hmem (content : GameFile → Bytes) :
        (file.name, content file) ∈ Collection.ofGame content := List.mem_map_of_mem file.mem_all
    rw [Collection.lookup_of_mem (Collection.nodup_ofGame _) (hmem GameFile.leastContent),
      Collection.lookup_of_mem hpacked (List.mem_reverse.mpr (hmem coveredContent))]
    cases file <;> rfl
  · have hnone (content : GameFile → Bytes) : name ∉ (Collection.ofGame content).names := by
      rw [Collection.names_ofGame]
      intro hmem
      obtain ⟨file, -, hname⟩ := List.mem_map.mp hmem
      exact hfile ⟨file, hname⟩
    have hloose : name ∉ looseLeast.names := fun hmem =>
      hfile ⟨.template, (List.mem_singleton.mp hmem).symm⟩
    have hpacked : name ∉ packedLeast.names := by
      rw [packedLeast, Collection.names, List.map_reverse, List.mem_reverse]
      exact hnone coveredContent
    rw [Collection.lookup_eq_none_iff.mpr (hnone _), Collection.lookup_eq_none_iff.mpr hloose,
      Collection.lookup_eq_none_iff.mpr hpacked]
    rfl

/-- Loose and packed, the files make the table that they make on their own. -/
theorem load_split_least : ∃ c table,
    Container.ofBytes (Container.pack packedLeast) Container.defaultLabel = .ok c ∧
      (load (Archive.reader (.empty []))
        (new (.layered [.memory looseLeast, .container c]) SideData.permissive)).1 = .ok table := by
  obtain ⟨table, htable⟩ := AssetTable.exists_decodedFrom_least
  have hnames : ∀ name ∈ (Collection.ofGame GameFile.leastContent).names,
      Container.FitsName name := by
    rw [Collection.names_ofGame]
    refine List.forall_mem_map.mpr fun file _ => ?_
    cases file <;> decide
  have hsizes : ∀ file ∈ packedLeast, file.2.length < 0x100000000 := by
    intro file hfile
    obtain ⟨file, -, rfl⟩ := List.mem_map.mp (List.mem_reverse.mp hfile)
    cases file
    all_goals
      simp only [coveredContent, GameFile.leastContent, List.length_replicate]
      decide +kernel
  obtain ⟨c, hc, hload⟩ := load_split hnames (Collection.caseUnique_ofGame _) (by decide)
    split_least hsizes Container.defaultLabel (.empty []) SideData.permissive
  rw [load_ofGame htable] at hload
  exact ⟨c, table, hc, hload.eq_ok⟩

end Loader

end ArenaData
