import ArenaData.Proofs.ContainerLayout
import Mathlib.Data.List.Nodup

/-!
# Trees of archives

Archives in memory and containers, put together by layers to any depth, are told apart by nothing
but the resources of their leaves from left to right: `BuiltOf` relates a tree to these, and
`BuiltOf.names`, `BuiltOf.contains` and `BuiltOf.read` say what every question comes to in their
terms. So the ways in which the layers of a tree may be nested make no difference.

The induction is on how a tree is built: a leaf, no layers, or one more layer in front. What carries
it is `BuiltOf.consult`, because a layer that has no match must be passed over and one that has a
match must also give its data.
-/

namespace ArenaData

/-- The stored name is one that the query `name` means. -/
def Matching.Agrees (how : Matching) (stored name : Text) : Prop :=
  match how with
  | .exact => stored = name
  | .anyCase => stored.upper = name.upper

instance (how : Matching) (stored name : Text) : Decidable (how.Agrees stored name) :=
  match how with
  | .exact => inferInstanceAs (Decidable (stored = name))
  | .anyCase => inferInstanceAs (Decidable (stored.upper = name.upper))

theorem Matching.agrees_self (how : Matching) (name : Text) : how.Agrees name name := by
  cases how with
  | exact => rfl
  | anyCase => rfl

/-! ## Collections -/

/-- Resources by name. -/
abbrev Collection := List (Text × Bytes)

namespace Collection

variable {how : Matching} {name : Text} {data : Bytes} {files : Collection}

/-- The names in their order. -/
def names (files : Collection) : List Text := files.map Prod.fst

/-- No resource has a name that the query means. -/
def Lacks (how : Matching) (name : Text) (files : Collection) : Prop :=
  ∀ file ∈ files, ¬ how.Agrees file.1 name

/-- The data stand under a name that the query means, and no later name is meant. -/
def Holds (how : Matching) (name : Text) (data : Bytes) (files : Collection) : Prop :=
  ∃ front stored back, files = front ++ (stored, data) :: back ∧ how.Agrees stored name ∧
    Lacks how name back

/-- The data of the last resource that the query means. -/
def find (how : Matching) (name : Text) (files : Collection) : Option Bytes :=
  (files.reverse.find? fun file => how.Agrees file.1 name).map Prod.snd

theorem find_eq_none_iff : files.find how name = none ↔ files.Lacks how name := by
  rw [find, Option.map_eq_none_iff, List.find?_eq_none]
  simp [Lacks]

theorem find_eq_some_iff : files.find how name = some data ↔ files.Holds how name data := by
  rw [find, Option.map_eq_some_iff]
  constructor
  · rintro ⟨⟨stored, d⟩, hfind, rfl⟩
    obtain ⟨hagree, back, front, hfiles, hback⟩ := List.find?_eq_some_iff_append.mp hfind
    refine ⟨front.reverse, stored, back.reverse, ?_, by simpa using hagree, ?_⟩
    · simpa using congrArg List.reverse hfiles
    · intro file hfile
      simpa using hback file (List.mem_reverse.mp hfile)
  · rintro ⟨front, stored, back, rfl, hagree, hback⟩
    refine ⟨(stored, data), List.find?_eq_some_iff_append.mpr ⟨by simpa using hagree,
      back.reverse, front.reverse, by simp, fun file hfile => ?_⟩, rfl⟩
    simpa using hback file (List.mem_reverse.mp hfile)

theorem isSome_find_iff :
    (files.find how name).isSome ↔ ∃ stored ∈ files.names, how.Agrees stored name := by
  rw [Option.isSome_iff_ne_none, ne_eq, find_eq_none_iff]
  simp [Lacks, names]

/-- Where names do not repeat, a resource is found under its name. -/
theorem lookup_of_mem (h : files.names.Nodup) (hmem : (name, data) ∈ files) :
    files.lookup name = some data :=
  (Keyed.lookup_eq_some_iff h).mpr hmem

theorem lookup_eq_none_iff : files.lookup name = none ↔ name ∉ files.names :=
  Keyed.lookup_eq_none_iff

/-- An exact query means one name at most, so looking it up from either end is the same. -/
theorem find_exact (h : files.names.Nodup) : files.find .exact name = files.lookup name := by
  cases hfind : files.find .exact name with
  | none =>
    have hlacks : files.Lacks .exact name := find_eq_none_iff.mp hfind
    refine (lookup_eq_none_iff.mpr fun hmem => ?_).symm
    obtain ⟨file, hfile, rfl⟩ := List.mem_map.mp hmem
    exact hlacks file hfile rfl
  | some data =>
    obtain ⟨front, stored, back, rfl, rfl, -⟩ := find_eq_some_iff.mp hfind
    exact (lookup_of_mem h (List.mem_append_right _ List.mem_cons_self)).symm

/-- No two names have the same capitals, unless they are one name. -/
def CaseUnique (names : List Text) : Prop :=
  ∀ x ∈ names, ∀ y ∈ names, x.upper = y.upper → x = y

/-- Among names that differ in their capitals, a query that means a name means only that one. -/
theorem find_of_mem (h : files.names.Nodup) (hcase : CaseUnique files.names) {stored : Text}
    (hmem : (stored, data) ∈ files) (hagree : how.Agrees stored name) :
    files.find how name = some data := by
  obtain ⟨front, back, rfl⟩ := List.append_of_mem hmem
  refine find_eq_some_iff.mpr ⟨front, stored, back, rfl, hagree, fun file hfile hother => ?_⟩
  have hmems : file ∈ front ++ (stored, data) :: back :=
    List.mem_append_right _ (List.mem_cons_of_mem _ hfile)
  have hsame : file.1 = stored := by
    cases how with
    | exact => exact hother.trans hagree.symm
    | anyCase =>
      exact hcase _ (List.mem_map_of_mem hmems) _ (List.mem_map_of_mem hmem)
        (hother.trans hagree.symm)
  rw [names, List.map_append, List.map_cons] at h
  have hback : stored ∉ back.map Prod.fst := (List.nodup_cons.mp (List.nodup_append.mp h).2.1).1
  rw [← hsame] at hback
  exact hback (List.mem_map_of_mem hfile)

theorem lastMatch_names : lastMatch files.names name =
    (files.reverse.find? fun file => Matching.anyCase.Agrees file.1 name).map Prod.fst := by
  rw [lastMatch, names, ← List.map_reverse, List.find?_map]
  have hagree (file : Text × Bytes) : (file.1.upper == name.upper) =
      decide (Matching.anyCase.Agrees file.1 name) := Bool.beq_eq_decide_eq _ _
  exact congrArg (fun p => (files.reverse.find? p).map Prod.fst) (funext hagree)

theorem isSome_lastMatch :
    (lastMatch files.names name).isSome = (files.find .anyCase name).isSome := by
  rw [lastMatch_names, find, Option.isSome_map, Option.isSome_map]

/-- Looking up the last name with the capitals of the query gives what the query means. -/
theorem find_anyCase (h : files.names.Nodup) :
    files.lookup ((lastMatch files.names name).getD name) = files.find .anyCase name := by
  rw [lastMatch_names, find]
  cases hfind : files.reverse.find? fun file => Matching.anyCase.Agrees file.1 name with
  | none =>
    refine lookup_eq_none_iff.mpr fun hmem => ?_
    obtain ⟨file, hfile, hname⟩ := List.mem_map.mp hmem
    have hpass := List.find?_eq_none.mp hfind file (List.mem_reverse.mpr hfile)
    rw [hname] at hpass
    exact hpass (by simpa using Matching.agrees_self .anyCase name)
  | some file =>
    exact lookup_of_mem h (List.mem_reverse.mp (List.mem_of_find?_eq_some hfind))

end Collection

/-- The resources of a container: its entries that count, with their payloads. -/
def Container.resources (c : Container) : Collection :=
  c.entries.map fun e => (e.name, c.payload e)

namespace Container

theorem names_resources (c : Container) : c.resources.names = c.names := by
  rw [resources, Collection.names, List.map_map]
  rfl

theorem nodup_names (c : Container) : c.names.Nodup := by
  rw [names, entries, Keyed.map_firsts]
  exact Keyed.nodup_eraseDups _

theorem lookup_resources (c : Container) (name : Text) :
    c.resources.lookup name = c.find? name := by
  have hlookup (l : List Entry) : (l.map fun e => (e.name, c.payload e)).lookup name =
      (l.find? (·.name == name)).map c.payload := by
    induction l with
    | nil => rfl
    | cons e l ih =>
      rw [List.map_cons, List.lookup_cons, List.find?_cons, Bool.beq_comm, ih]
      cases e.name == name with
      | true => rfl
      | false => rfl
  rw [resources, hlookup, entries, Keyed.find?_firsts, find?]

end Container

namespace Archive

variable {tree : FileTree} {how : Matching} {name : Text} {a b : Archive}
  {leaves : List Collection}

/-! ## Leaves -/

/-- The archive is a leaf with these resources. -/
inductive Leaf : Archive → Collection → Prop where
  /-- A collection in memory. -/
  | memory (files : Collection) : files.names.Nodup → Leaf (.memory files) files
  /-- A container. -/
  | container (c : Container) : Leaf (.container c) c.resources

namespace Leaf

variable {files : Collection}

theorem nodup (h : Leaf a files) : files.names.Nodup := by
  cases h with
  | memory files h => exact h
  | container c => rw [c.names_resources]; exact c.nodup_names

theorem names (h : Leaf a files) : a.names tree = .ok files.names := by
  cases h with
  | memory files h => rfl
  | container c => rw [c.names_resources]; rfl

theorem stored (h : Leaf a files) (stored : Text) :
    a.stored? tree stored = .ok (files.lookup stored) := by
  cases h with
  | memory files h => rfl
  | container c => rw [c.lookup_resources]; rfl

theorem resolve (h : Leaf a files) :
    a.resolve tree name = (.ok (lastMatch files.names name), a) := by
  cases h with
  | memory files h => rfl
  | container c => rw [c.names_resources]; rfl

theorem contains (h : Leaf a files) :
    a.contains tree how name = (.ok (files.find how name).isSome, a) := by
  have hexact : (files.find .exact name).isSome = files.names.contains name := by
    rw [Bool.eq_iff_iff, Collection.isSome_find_iff, List.contains_iff_mem]
    exact ⟨fun ⟨stored, hmem, hname⟩ => hname ▸ hmem, fun hmem => ⟨name, hmem, rfl⟩⟩
  cases how with
  | exact =>
    rw [hexact]
    cases h with
    | memory files h => rfl
    | container c => rw [c.names_resources]; rfl
  | anyCase =>
    rw [← Collection.isSome_lastMatch]
    cases h with
    | memory files h => rfl
    | container c => rw [c.names_resources]; rfl

theorem readPlain (h : Leaf a files) :
    a.readPlain tree how name = match files.find how name with
      | some data => (.ok data, a)
      | none => (.error (.resourceNotFound name a.describe), a) := by
  cases how with
  | exact =>
    rw [Archive.readPlain]
    simp only [h.stored, Option.getD_some, Collection.find_exact h.nodup]
    cases files.lookup name with
    | none => rfl
    | some data => rfl
  | anyCase =>
    rw [Archive.readPlain]
    simp only [h.resolve, h.stored, Collection.find_anyCase h.nodup]
    cases files.find .anyCase name with
    | none => rfl
    | some data => rfl

theorem read (h : Leaf a files) :
    a.read tree how name = match files.find how name with
      | some data => (.ok data, a)
      | none => (.error (.resourceNotFound name a.describe), a) := by
  have hplain : a.read tree how name = a.readPlain tree how name := by
    cases h with
    | memory files h => rfl
    | container c => rfl
  rw [hplain, h.readPlain]

theorem consult (h : Leaf a files) :
    a.consult tree how name = (.ok (files.find how name), a) := by
  have hplain : ∀ layers, a = layered layers → False := by
    rintro layers rfl
    cases h
  rw [Archive.consult.eq_2 tree how name a hplain, h.contains]
  cases hfind : files.find how name with
  | none => rfl
  | some data =>
    simp only [Option.isSome_some, h.readPlain, hfind]
    rfl

end Leaf

/-- Resources given one after the other make a collection in which each name stands once. -/
theorem exists_leaf_ofFiles (files : List (Text × Bytes)) :
    ∃ kept : Collection, Leaf (ofFiles files) kept ∧
      kept.names = (files.map Prod.fst).eraseDups := by
  have hnames : Collection.names ((Keyed.firsts Prod.fst files).map fun file =>
      (file.1, (Std.TreeMap.ofList files).getD file.1 file.2)) =
        (files.map Prod.fst).eraseDups := by
    rw [← Keyed.map_firsts, Collection.names, List.map_map]
    rfl
  exact ⟨_, .memory _ (hnames ▸ Keyed.nodup_eraseDups _), hnames⟩

/-- Where no name comes twice the collection holds the files as they were given. -/
theorem ofFiles_of_nodup {files : Collection} (h : files.names.Nodup) :
    ofFiles files = memory files := by
  have hdistinct : files.Pairwise fun one other => ¬ compare one.1 other.1 = .eq := by
    refine (List.pairwise_map.mp h).imp fun hne heq => hne ?_
    exact Std.LawfulEqOrd.eq_of_compare heq
  rw [ofFiles, Keyed.firsts_of_nodup h]
  refine congrArg memory ((List.map_congr_left fun file hfile => ?_).trans (List.map_id files))
  exact congrArg (Prod.mk file.1)
    (Std.TreeMap.getD_ofList_of_mem Std.ReflCmp.compare_self hdistinct hfile)

/-! ## Layers -/

/-- The archive is put together by layers from leaves with these resources, left to right. -/
inductive BuiltOf : Archive → List Collection → Prop where
  /-- A leaf on its own. -/
  | leaf {a : Archive} {files : Collection} : Leaf a files → BuiltOf a [files]
  /-- No layers at all. -/
  | empty : BuiltOf (layered []) []
  /-- One more layer in front of others. -/
  | layer {a : Archive} {rest : List Archive} {leaves others : List Collection} :
    BuiltOf a leaves → BuiltOf (layered rest) others →
      BuiltOf (layered (a :: rest)) (leaves ++ others)

/-- The data of the first leaf that has a match. -/
def firstMatch (how : Matching) (name : Text) (leaves : List Collection) : Option Bytes :=
  leaves.findSome? (Collection.find how name)

theorem firstMatch_singleton (files : Collection) :
    firstMatch how name [files] = files.find how name := List.findSome?_singleton

theorem firstMatch_append (leaves others : List Collection) :
    firstMatch how name (leaves ++ others) =
      (firstMatch how name leaves).or (firstMatch how name others) := List.findSome?_append

theorem firstMatch_cons (files : Collection) (leaves : List Collection) :
    firstMatch how name (files :: leaves) =
      (files.find how name).or (firstMatch how name leaves) := by
  rw [← List.singleton_append, firstMatch_append, firstMatch_singleton]

theorem contains_layered (layers : List Archive) :
    (layered layers).contains tree how name =
      ((anyContains tree how name layers).1, layered (anyContains tree how name layers).2) := by
  rw [Archive.contains]

theorem consult_layered (layers : List Archive) :
    (layered layers).consult tree how name =
      ((consultLayers tree how name layers).1, layered (consultLayers tree how name layers).2) := by
  rw [Archive.consult]

namespace BuiltOf

theorem nodup (h : BuiltOf a leaves) : ∀ files ∈ leaves, files.names.Nodup := by
  induction h with
  | leaf hleaf =>
    intro files hmem
    rw [List.mem_singleton.mp hmem]
    exact hleaf.nodup
  | empty => exact fun files hmem => absurd hmem List.not_mem_nil
  | layer _ _ iha ihrest =>
    intro files hmem
    rcases List.mem_append.mp hmem with hmem | hmem
    · exact iha files hmem
    · exact ihrest files hmem

theorem names (h : BuiltOf a leaves) :
    a.names tree = .ok (leaves.flatMap Collection.names).eraseDups := by
  induction h with
  | leaf hleaf =>
    rw [hleaf.names, List.flatMap_singleton, Keyed.eraseDups_of_nodup hleaf.nodup]
  | empty => rfl
  | layer _ _ iha ihrest =>
    rename_i a rest leaves others _ _
    rw [Archive.names] at ihrest ⊢
    obtain ⟨names, hnames, hothers⟩ := bind_eq_ok.mp ihrest
    have hothers : names.eraseDups = (others.flatMap Collection.names).eraseDups := by
      rw [← Except.ok.inj hothers, Keyed.firsts_id]
    rw [layerNames, iha, hnames]
    refine congrArg Except.ok ?_
    rw [Keyed.firsts_id, List.flatMap_append]
    exact Keyed.eraseDups_append_congr (Keyed.eraseDups_of_nodup (Keyed.nodup_eraseDups _)) hothers

theorem contains (h : BuiltOf a leaves) :
    a.contains tree how name = (.ok (firstMatch how name leaves).isSome, a) := by
  induction h with
  | leaf hleaf =>
    rw [hleaf.contains, firstMatch_singleton]
  | empty => rw [contains_layered]; rfl
  | layer _ _ iha ihrest =>
    rename_i a rest leaves others _ _
    rw [contains_layered] at ihrest
    obtain ⟨hfound, hrest⟩ := Prod.mk.inj ihrest
    rw [contains_layered, anyContains, iha, firstMatch_append]
    cases hfirst : firstMatch how name leaves with
    | some data => rfl
    | none =>
      simp only [Option.isSome_none, hfound, Option.none_or]
      rw [Archive.layered.inj hrest]

theorem consult (h : BuiltOf a leaves) :
    a.consult tree how name = (.ok (firstMatch how name leaves), a) := by
  induction h with
  | leaf hleaf =>
    rw [hleaf.consult, firstMatch_singleton]
  | empty => rw [consult_layered]; rfl
  | layer _ _ iha ihrest =>
    rename_i a rest leaves others _ _
    rw [consult_layered] at ihrest
    obtain ⟨hdata, hrest⟩ := Prod.mk.inj ihrest
    rw [consult_layered, consultLayers, iha, firstMatch_append]
    cases hfirst : firstMatch how name leaves with
    | some data => rfl
    | none =>
      simp only [hdata, Option.none_or]
      rw [Archive.layered.inj hrest]

/-- A read gives the data of the first leaf that has a match, and fails if there is none. -/
theorem read (h : BuiltOf a leaves) :
    a.read tree how name = match firstMatch how name leaves with
      | some data => (.ok data, a)
      | none => (.error (.resourceNotFound name a.describe), a) := by
  have hconsult : a.consult tree how name = _ := h.consult
  cases h with
  | leaf hleaf => rw [hleaf.read, firstMatch_singleton]
  | empty => rfl
  | layer _ _ =>
    rw [Archive.read]
    simp only [hconsult]
    cases firstMatch how name _ with
    | some data => rfl
    | none => rfl

theorem exists_agrees_iff (leaves : List Collection) :
    (∃ stored ∈ (leaves.flatMap Collection.names).eraseDups, how.Agrees stored name) ↔
      (firstMatch how name leaves).isSome := by
  rw [firstMatch, List.isSome_findSome?, List.any_eq_true]
  simp only [List.mem_eraseDups, List.mem_flatMap, Collection.isSome_find_iff]
  constructor
  · rintro ⟨stored, ⟨files, hfiles, hmem⟩, hagree⟩
    exact ⟨files, hfiles, stored, hmem, hagree⟩
  · rintro ⟨files, hfiles, stored, hmem, hagree⟩
    exact ⟨stored, ⟨files, hfiles, hmem⟩, hagree⟩

theorem firstMatch_eq_some_iff {data : Bytes} :
    firstMatch how name leaves = some data ↔
      ∃ before files behind, leaves = before ++ files :: behind ∧
        (∀ other ∈ before, other.Lacks how name) ∧ files.Holds how name data := by
  rw [firstMatch, List.findSome?_eq_some_iff]
  simp only [Collection.find_eq_some_iff, Collection.find_eq_none_iff]
  constructor
  · rintro ⟨before, files, behind, hleaves, hholds, hlacks⟩
    exact ⟨before, files, behind, hleaves, hlacks, hholds⟩
  · rintro ⟨before, files, behind, hleaves, hlacks, hholds⟩
    exact ⟨before, files, behind, hleaves, hholds, hlacks⟩

theorem read_eq_ok_iff (h : BuiltOf a leaves) {data : Bytes} :
    a.read tree how name = (.ok data, a) ↔ firstMatch how name leaves = some data := by
  rw [h.read]
  cases firstMatch how name leaves with
  | none => simp
  | some data' => simp

end BuiltOf

/-! ## Splicing -/

/-- Somewhere in the tree, a layer that has layers of its own is replaced by these. -/
inductive Spliced : Archive → Archive → Prop where
  /-- A layer of the whole archive. -/
  | here (before inner behind : List Archive) :
    Spliced (layered (before ++ layered inner :: behind)) (layered (before ++ inner ++ behind))
  /-- A layer of one of its layers, or deeper. -/
  | inside {a b : Archive} (before behind : List Archive) : Spliced a b →
    Spliced (layered (before ++ a :: behind)) (layered (before ++ b :: behind))

theorem builtOf_cons {rest : List Archive} :
    BuiltOf (layered (a :: rest)) leaves ↔
      ∃ front back, leaves = front ++ back ∧ BuiltOf a front ∧ BuiltOf (layered rest) back := by
  constructor
  · intro h
    cases h with
    | leaf hleaf => cases hleaf
    | layer ha hrest => exact ⟨_, _, rfl, ha, hrest⟩
  · rintro ⟨front, back, rfl, ha, hrest⟩
    exact .layer ha hrest

theorem builtOf_append {layers others : List Archive} :
    BuiltOf (layered (layers ++ others)) leaves ↔
      ∃ front back, leaves = front ++ back ∧ BuiltOf (layered layers) front ∧
        BuiltOf (layered others) back := by
  induction layers generalizing leaves with
  | nil =>
    constructor
    · exact fun h => ⟨[], leaves, rfl, .empty, h⟩
    · rintro ⟨front, back, rfl, hfront, hback⟩
      cases hfront with
      | leaf hleaf => cases hleaf
      | empty => exact hback
  | cons a layers ih =>
    rw [List.cons_append, builtOf_cons]
    constructor
    · rintro ⟨front, back, rfl, ha, hrest⟩
      obtain ⟨middle, back, rfl, hlayers, hothers⟩ := ih.mp hrest
      exact ⟨front ++ middle, back, (List.append_assoc _ _ _).symm, .layer ha hlayers, hothers⟩
    · rintro ⟨front, back, rfl, hfront, hback⟩
      obtain ⟨front, middle, rfl, ha, hlayers⟩ := builtOf_cons.mp hfront
      exact ⟨front, middle ++ back, List.append_assoc _ _ _, ha, ih.mpr ⟨_, _, rfl, hlayers, hback⟩⟩

/-- Splicing leaves the leaves where they are. -/
theorem Spliced.builtOf (hs : Spliced a b) (h : BuiltOf a leaves) : BuiltOf b leaves := by
  induction hs generalizing leaves with
  | here before inner behind =>
    obtain ⟨front, back, rfl, hbefore, hrest⟩ := builtOf_append.mp h
    obtain ⟨middle, back, rfl, hinner, hbehind⟩ := builtOf_cons.mp hrest
    rw [List.append_assoc]
    exact builtOf_append.mpr
      ⟨front, _, rfl, hbefore, builtOf_append.mpr ⟨middle, back, rfl, hinner, hbehind⟩⟩
  | inside before behind _ ih =>
    obtain ⟨front, back, rfl, hbefore, hrest⟩ := builtOf_append.mp h
    obtain ⟨middle, back, rfl, ha, hbehind⟩ := builtOf_cons.mp hrest
    exact builtOf_append.mpr ⟨front, _, rfl, hbefore, .layer (ih ha) hbehind⟩

/-- The contract of looking things up in a tree of collections and containers. Its names are those
of the leaves, each once; it has a resource iff a stored name is one that the query means, and just
then a read succeeds, with the data of the first leaf that has a match and, in that leaf, of the
last name that is meant; any other read finds no resource. Splicing a layer changes none of these
answers; only the place that the message of a failed read mentions may be called differently. -/
theorem answers_of_leaves (h : BuiltOf a leaves) (tree : FileTree) :
    ∃ names, a.names tree = .ok names ∧ names.Nodup ∧
      (∀ stored, stored ∈ names ↔ ∃ files ∈ leaves, stored ∈ files.names) ∧
      (∀ how name,
        a.contains tree how name = (.ok (decide (∃ stored ∈ names, how.Agrees stored name)), a) ∧
        ((∃ data, a.read tree how name = (.ok data, a)) ↔
          ∃ stored ∈ names, how.Agrees stored name) ∧
        (∀ data, a.read tree how name = (.ok data, a) ↔
          ∃ before files behind, leaves = before ++ files :: behind ∧
            (∀ other ∈ before, other.Lacks how name) ∧ files.Holds how name data) ∧
        ((¬ ∃ stored ∈ names, how.Agrees stored name) →
          a.read tree how name = (.error (.resourceNotFound name a.describe), a))) ∧
      ∀ b, Spliced a b → b.names tree = a.names tree ∧ ∀ how name,
        (b.contains tree how name).1 = (a.contains tree how name).1 ∧
        (∀ data, (b.read tree how name).1 = .ok data ↔ (a.read tree how name).1 = .ok data) ∧
        (Fails .resourceNotFound (b.read tree how name).1 ↔
          Fails .resourceNotFound (a.read tree how name).1) := by
  refine ⟨_, h.names, Keyed.nodup_eraseDups _, ?_, ?_, ?_⟩
  · intro stored
    rw [List.mem_eraseDups, List.mem_flatMap]
  · intro how name
    have hmeant : _ ↔ (firstMatch how name leaves).isSome := BuiltOf.exists_agrees_iff leaves
    refine ⟨?_, ?_, ?_, ?_⟩
    · rw [h.contains, ← Bool.decide_coe (firstMatch how name leaves).isSome]
      simp only [hmeant]
    · simp only [h.read_eq_ok_iff, hmeant, Option.isSome_iff_exists]
    · intro data
      rw [h.read_eq_ok_iff, BuiltOf.firstMatch_eq_some_iff]
    · intro hnone
      rw [hmeant, Option.not_isSome_iff_eq_none] at hnone
      rw [h.read, hnone]
  · intro b hs
    have hb := hs.builtOf h
    refine ⟨by rw [h.names, hb.names], fun how name => ?_⟩
    rw [h.contains, hb.contains, h.read, hb.read]
    cases firstMatch how name leaves with
    | some data => exact ⟨rfl, fun _ => Iff.rfl, Iff.rfl⟩
    | none => exact ⟨rfl, fun _ => by simp, iff_of_true ⟨_, rfl, rfl⟩ ⟨_, rfl, rfl⟩⟩

/-- Two names of one collection have the same capitals, a container is behind it, and both stand in
layers of a layer: the later name is meant, with and without these layers. -/
theorem read_of_nested_layers :
    ∃ c, Container.ofBytes Container.repeatedNames Container.defaultLabel = .ok c ∧
      ((layered [layered [], layered [memory [(['s', 's'], [1]), (['ß'], [2]), (['s'], [3])],
        container c]]).read (.empty []) .anyCase ['S', 'S']).1 = .ok [2] ∧
      ((layered [layered [], memory [(['s', 's'], [1]), (['ß'], [2]), (['s'], [3])],
        container c]).read (.empty []) .anyCase ['S', 'S']).1 = .ok [2] := by
  have hc : Container.ofBytes Container.repeatedNames Container.defaultLabel = .ok _ :=
    Container.ofBytes_of_hasRoom (by decide)
  set c := Container.opened Container.repeatedNames Container.defaultLabel
  let files : Collection := [(['s', 's'], [1]), (['ß'], [2]), (['s'], [3])]
  let inner : List Archive := [memory files, container c]
  have hinner : BuiltOf (layered inner) [files, c.resources] :=
    .layer (.leaf (.memory files (by decide))) (.layer (.leaf (.container c)) .empty)
  have hbuilt : BuiltOf (layered [layered [], layered inner]) [files, c.resources] :=
    .layer .empty (.layer hinner .empty)
  obtain ⟨names, -, -, -, hanswers, hsplice⟩ := answers_of_leaves hbuilt (.empty [])
  obtain ⟨-, -, hread, -⟩ := hanswers .anyCase ['S', 'S']
  have hfound := (hread [2]).mpr ⟨[], files, [c.resources], rfl, by simp,
    [(['s', 's'], [1])], ['ß'], [(['s'], [3])], rfl, by decide, by unfold Collection.Lacks; decide⟩
  obtain ⟨-, hsame⟩ := hsplice _ (.here [layered []] inner [])
  have hfirst := congrArg Prod.fst hfound
  exact ⟨c, hc, hfirst, ((hsame .anyCase ['S', 'S']).2.1 [2]).mpr hfirst⟩

end Archive

end ArenaData
