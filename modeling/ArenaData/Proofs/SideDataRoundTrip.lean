import ArenaData.Proofs.JsonRoundTrip
import ArenaData.Proofs.LoadingFaults

/-!
# Class tables and their document

The tables of the executable come back from their document just when all their integers have 64
bits: then the document can be written, its values are all of the kind that documents hold as they
are, and reading it checks again what was checked when the tables were accepted.
-/

namespace ArenaData.SideData

open Json (Value)

variable {levels : Nat} {d : SideData} {ints : List Int} {lists : List (List Int)}
  {texts : List Text}
  {column : String} {tables : Value}

/-! ## Written tables -/

/-- Every integer of the tables. -/
def integers (d : SideData) : List Int :=
  d.allowedArmors ++ d.allowedShieldsIndices ++ d.allowedWeaponsIndices ++ d.classNumbersToIds ++
    d.initialExperienceCaps ++ d.healthDice ++ d.lockpickingDivisors ++
    d.allowedShieldsLists.flatten ++ d.allowedWeaponsLists.flatten

/-- The integer has 64 bits, signed or not. -/
def Fits64 (n : Int) : Prop := -2 ^ 63 ≤ n ∧ n ≤ 2 ^ 64 - 1

theorem restorable_texts (texts : List Text) : (textsValue texts).Restorable := by
  refine .list fun v hv => ?_
  obtain ⟨t, -, rfl⟩ := List.mem_map.mp hv
  exact .text t

theorem restorable_ints (h : ∀ n ∈ ints, Fits64 n) : (intsValue ints).Restorable := by
  refine .list fun v hv => ?_
  obtain ⟨n, hn, rfl⟩ := List.mem_map.mp hv
  obtain ⟨hmin, hmax⟩ := h n hn
  exact .int hmin hmax

theorem restorable_lists (h : ∀ n ∈ lists.flatten, Fits64 n) :
    (Value.list (lists.map intsValue)).Restorable := by
  refine .list fun v hv => ?_
  obtain ⟨ints, hints, rfl⟩ := List.mem_map.mp hv
  exact restorable_ints fun n hn => h n (List.mem_flatten.mpr ⟨ints, hints, hn⟩)

theorem restorable_toValue (h : ∀ n ∈ d.integers, Fits64 n) : d.toValue.Restorable := by
  simp only [integers, List.forall_mem_append] at h
  obtain ⟨⟨⟨⟨⟨⟨⟨⟨h1, h2⟩, h3⟩, h4⟩, h5⟩, h6⟩, h7⟩, h8⟩, h9⟩ := h
  have hkeys : (d.fields.map Prod.fst).Nodup := by
    simp only [fields, List.map_cons, List.map_nil]
    decide
  have hfields : ∀ field ∈ d.fields, field.2.Restorable := by
    simp only [fields, List.forall_mem_cons]
    exact ⟨restorable_texts _, restorable_texts _, restorable_ints h1, restorable_ints h2,
      restorable_ints h3, restorable_ints h4, restorable_ints h5, restorable_ints h6,
      restorable_ints h7, restorable_lists h8, restorable_lists h9, by simp⟩
  refine .object (List.nodup_singleton _) fun field hfield => ?_
  rw [List.mem_singleton.mp hfield]
  exact .object hkeys hfields

theorem fits64_of_isWritable {items : List Value} (h : (Value.list items).isWritable = true) :
    ∀ n, .int n ∈ items → Fits64 n := by
  intro n hn
  have hwritable : (Value.int n).isWritable = true := Value.allWritable_iff.mp h _ hn
  rw [Value.isWritable, Bool.and_eq_true, decide_eq_true_eq, decide_eq_true_eq] at hwritable
  exact hwritable

theorem fits64_of_isWritable_toValue (h : d.toValue.isWritable = true) :
    ∀ n ∈ d.integers, Fits64 n := by
  have hfields : ∀ field ∈ d.fields, field.2.isWritable = true := by
    have hroot := Value.fieldsWritable_iff.mp h _ List.mem_cons_self
    exact Value.fieldsWritable_iff.mp hroot
  simp only [fields, List.forall_mem_cons] at hfields
  obtain ⟨-, -, h1, h2, h3, h4, h5, h6, h7, h8, h9, -⟩ := hfields
  have hints {ints : List Int} (h : (intsValue ints).isWritable = true) :
      ∀ n ∈ ints, Fits64 n := fun n hn => fits64_of_isWritable h n (List.mem_map_of_mem hn)
  have hlists {lists : List (List Int)}
      (h : (Value.list (lists.map intsValue)).isWritable = true) :
      ∀ n ∈ lists.flatten, Fits64 n := by
    intro n hn
    obtain ⟨ints, hmem, hn⟩ := List.mem_flatten.mp hn
    exact hints (Value.allWritable_iff.mp h _ (List.mem_map_of_mem hmem)) n hn
  simp only [integers, List.forall_mem_append]
  exact ⟨⟨⟨⟨⟨⟨⟨⟨hints h1, hints h2⟩, hints h3⟩, hints h4⟩, hints h5⟩, hints h6⟩, hints h7⟩,
    hlists h8⟩, hlists h9⟩

/-! ## Depth -/

theorem itemsDepth_le {items : List Value} {k : Nat} (h : ∀ v ∈ items, v.depth ≤ k) :
    Value.itemsDepth items ≤ k := by
  induction items with
  | nil => exact Nat.zero_le k
  | cons v items ih =>
    obtain ⟨hv, hitems⟩ := List.forall_mem_cons.mp h
    exact Nat.max_le.mpr ⟨hv, ih hitems⟩

theorem fieldsDepth_le {fields : List (Text × Value)} {k : Nat}
    (h : ∀ field ∈ fields, field.2.depth ≤ k) : Value.fieldsDepth fields ≤ k := by
  induction fields with
  | nil => exact Nat.zero_le k
  | cons field fields ih =>
    obtain ⟨hv, hfields⟩ := List.forall_mem_cons.mp h
    exact Nat.max_le.mpr ⟨hv, ih hfields⟩

theorem depth_toValue_le (d : SideData) : d.toValue.depth ≤ 5 := by
  have htexts (texts : List Text) : (textsValue texts).depth ≤ 2 := by
    refine Nat.succ_le_succ (itemsDepth_le fun v hv => ?_)
    obtain ⟨t, -, rfl⟩ := List.mem_map.mp hv
    exact Nat.le_refl 1
  have hints (ints : List Int) : (intsValue ints).depth ≤ 2 := by
    refine Nat.succ_le_succ (itemsDepth_le fun v hv => ?_)
    obtain ⟨n, -, rfl⟩ := List.mem_map.mp hv
    exact Nat.le_refl 1
  have hlists (lists : List (List Int)) : (Value.list (lists.map intsValue)).depth ≤ 3 := by
    refine Nat.succ_le_succ (itemsDepth_le fun v hv => ?_)
    obtain ⟨ints, -, rfl⟩ := List.mem_map.mp hv
    exact hints ints
  have hfields : ∀ field ∈ d.fields, field.2.depth ≤ 3 := by
    have hwide {v : Value} (h : v.depth ≤ 2) : v.depth ≤ 3 := Nat.le_succ_of_le h
    simp only [fields, List.forall_mem_cons]
    exact ⟨hwide (htexts _), hwide (htexts _), hwide (hints _), hwide (hints _), hwide (hints _),
      hwide (hints _), hwide (hints _), hwide (hints _), hwide (hints _), hlists _, hlists _,
      by simp⟩
  have hroot : ∀ field ∈ [(rootKey, Value.object d.fields)], field.2.depth ≤ 4 := by
    intro field hfield
    rw [List.mem_singleton.mp hfield]
    exact Nat.succ_le_succ (fieldsDepth_le hfields)
  exact Nat.succ_le_succ (fieldsDepth_le hroot)

/-! ## Tables that are read again -/

theorem hasTexts_of_get? (h : tables.get? column.toList = some (textsValue texts))
    (hlength : texts.length = classCount) : HasTexts levels tables column texts := by
  refine ⟨hlength, _, h, ?_⟩
  rw [List.forall₂_map_left_iff]
  exact List.forall₂_same.mpr fun t _ => ⟨Or.inl ⟨t, rfl⟩, rfl⟩

theorem describes_fields (h : d.Complete) : Describes levels (.object d.fields) d where
  classNames := hasTexts_of_get? rfl h.classNames
  preferredAttributes := hasTexts_of_get? rfl h.preferredAttributes
  allowedArmors := ⟨h.allowedArmors, rfl⟩
  allowedShieldsIndices := ⟨h.allowedShieldsIndices, rfl⟩
  allowedWeaponsIndices := ⟨h.allowedWeaponsIndices, rfl⟩
  classNumbersToIds := ⟨h.classNumbersToIds, rfl⟩
  initialExperienceCaps := ⟨h.initialExperienceCaps, rfl⟩
  healthDice := ⟨h.healthDice, rfl⟩
  lockpickingDivisors := ⟨h.lockpickingDivisors, rfl⟩
  allowedShieldsLists := rfl
  allowedWeaponsLists := rfl

/-- Tables that are complete are accepted again as they are. -/
theorem ofValue_toValue (h : d.Complete) : ofValue levels d.toValue = .ok d :=
  ofValue_eq_ok_iff.mpr ⟨d.fields, rfl, describes_fields h⟩

/-! ## Documents -/

/-- Tables that have been accepted can be written as a document and come back from it as they are,
just when every integer in them has 64 bits. What texts they hold, how many lists of shields and
weapons of what lengths, and with how many steps inwards they are read, makes no difference. -/
theorem ofBytes_toBytes_iff {document : Value} (h : ofValue levels document = .ok d) :
    (∃ bytes, d.toBytes = .ok bytes ∧ ∀ within, ofBytes within bytes = .ok d) ↔
      ∀ n ∈ d.integers, -2 ^ 63 ≤ n ∧ n ≤ 2 ^ 64 - 1 := by
  constructor
  · rintro ⟨bytes, hbytes, -⟩
    obtain ⟨t, ht, -⟩ := bind_eq_ok.mp hbytes
    rw [toDocument] at ht
    split at ht
    · rename_i hdocument
      refine fits64_of_isWritable_toValue ?_
      by_contra hwritable
      rw [Value.document?, if_neg hwritable] at hdocument
      cases hdocument
    · cases ht
  · intro hintegers
    have hrestorable : d.toValue.Restorable := restorable_toValue hintegers
    have hdepth : d.toValue.depth ≤ Json.Stack.depthLimit :=
      Nat.le_trans d.depth_toValue_le (by decide)
    obtain ⟨t, hdocument, hread⟩ := Json.ofDocument?_document hrestorable hdepth
    refine ⟨t.string.toUTF8.data.toList, ?_, fun within => ?_⟩
    · rw [toBytes, toDocument, hdocument]
      rfl
    · rw [ofBytes, hread]
      exact ofValue_toValue (complete_of_ofValue h)

/-- Tables with a name of quotes, backslashes, controls and letters beyond ASCII, with the least and
the greatest integers, and with an empty list of shields. -/
theorem ofBytes_toBytes_of_extremes :
    let d : SideData := { permissive with
      classNames := ['\x22', '\\', '\n', '\x01', '\x7f', 'é', '😀'] :: List.replicate 17 []
      healthDice := [-2 ^ 63, 2 ^ 64 - 1] ++ List.replicate 16 0
      allowedShieldsLists := [[], [7, 10]] }
    ofValue 1 d.toValue = .ok d ∧
      ∃ bytes, d.toBytes = .ok bytes ∧ ∀ within, ofBytes within bytes = .ok d := by
  intro d
  have haccepted : ofValue 1 d.toValue = .ok d := rfl
  exact ⟨haccepted, (ofBytes_toBytes_iff haccepted).mpr (by decide +kernel)⟩

end ArenaData.SideData
