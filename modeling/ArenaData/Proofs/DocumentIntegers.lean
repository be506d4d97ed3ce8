import ArenaData.Json.Reader
import ArenaData.Proofs.Decoders
import ArenaData.Proofs.TableColumns

/-!
# Integers of documents

A document has no integers but those of 64 bits; every other number in it is a binary64 number. The
reader keeps to this in all containers that are open (`Stack.Bounded.step`), so the value that it
ends with has no other integers either (`bounded_of_ofDocument?`). Hence every number in the tables
of a document can be shown, and where the tables are of no use they are found malformed.
-/

namespace ArenaData

namespace Json

/-! ## Values -/

namespace Value

/-- Every integer in the value has 64 bits, signed or not. -/
def Bounded (v : Value) : Prop :=
  ∀ n ∈ v.integers, Numeral.minInteger ≤ n ∧ n ≤ Numeral.maxInteger

theorem mem_itemsIntegers_iff {items : List Value} {n : Int} :
    n ∈ itemsIntegers items ↔ ∃ v ∈ items, n ∈ v.integers := by
  induction items with
  | nil => simp [itemsIntegers]
  | cons item rest ih => simp [itemsIntegers, ih]

theorem mem_fieldsIntegers_iff {fields : List (Text × Value)} {n : Int} :
    n ∈ fieldsIntegers fields ↔ ∃ field ∈ fields, n ∈ field.2.integers := by
  induction fields with
  | nil => simp [fieldsIntegers]
  | cons field rest ih => simp [fieldsIntegers, ih]

theorem bounded_list_iff {items : List Value} :
    (list items).Bounded ↔ ∀ v ∈ items, v.Bounded := by
  simp only [Bounded, integers, mem_itemsIntegers_iff]
  exact ⟨fun h v hv n hn => h n ⟨v, hv, hn⟩, fun h n ⟨v, hv, hn⟩ => h v hv n hn⟩

theorem bounded_object_iff {fields : List (Text × Value)} :
    (object fields).Bounded ↔ ∀ field ∈ fields, field.2.Bounded := by
  simp only [Bounded, integers, mem_fieldsIntegers_iff]
  exact ⟨fun h field hfield n hn => h n ⟨field, hfield, hn⟩,
    fun h n ⟨field, hfield, hn⟩ => h field hfield n hn⟩

theorem Bounded.get? {v value : Value} {key : Text} (h : v.Bounded)
    (hget : v.get? key = some value) : value.Bounded := by
  cases v with
  | object fields =>
    obtain ⟨front, rest, hfields, -⟩ := List.lookup_eq_some_iff.mp hget
    refine bounded_object_iff.mp h (key, value) ?_
    rw [hfields]
    exact List.mem_append_right _ List.mem_cons_self
  | _ => cases hget

end Value

theorem bounded_of_bounded? {n : Numeral} {v : Value} (h : n.bounded? = some v) : v.Bounded := by
  rw [Numeral.bounded?] at h
  split at h
  · rename_i integer hinteger
    obtain rfl := Option.some.inj h
    rw [Numeral.integer64?] at hinteger
    split at hinteger
    · rename_i hfits
      obtain rfl := Option.some.inj hinteger
      simp only [Bool.and_eq_true, decide_eq_true_eq] at hfits
      intro m hm
      rw [List.mem_singleton.mp hm]
      exact ⟨hfits.1.2, hfits.2⟩
    · cases hinteger
  · split at h
    · cases h
    · obtain rfl := Option.some.inj h
      exact List.forall_mem_nil _

theorem bounded_of_constants {letters : Text} {v : Value}
    (h : constants.lookup letters = some v) : v.Bounded := by
  have hnone : ∀ constant ∈ constants, constant.2.integers = [] := by decide
  obtain ⟨front, rest, hsplit, -⟩ := List.lookup_eq_some_iff.mp h
  have hmem : (letters, v) ∈ constants := by
    rw [hsplit]
    exact List.mem_append_right _ List.mem_cons_self
  rw [Value.Bounded, hnone _ hmem]
  exact List.forall_mem_nil _

/-! ## The reader -/

/-- Every integer in the container so far has 64 bits. -/
def Frame.Bounded : Frame → Prop
  | list items => ∀ v ∈ items, v.Bounded
  | object fields _ => ∀ field ∈ fields, field.2.Bounded

namespace Stack

variable {s next : Stack} {frames : List Frame} {token : Token} {v : Value}

/-- Every integer that the reader has come to has 64 bits. -/
structure Bounded (s : Stack) : Prop where
  frames : ∀ frame ∈ s.frames, frame.Bounded
  result : ∀ v, s.expected = .nothing v → v.Bounded

theorem forall_setField {P : Text × Value → Prop} {key : Text} {fields : List (Text × Value)}
    (h : ∀ field ∈ fields, P field) (hv : P (key, v)) :
    ∀ field ∈ setField key v fields, P field := by
  induction fields with
  | nil => exact List.forall_mem_singleton.mpr hv
  | cons field rest ih =>
    obtain ⟨hfield, hrest⟩ := List.forall_mem_cons.mp h
    rw [setField]
    split
    · exact List.forall_mem_cons.mpr ⟨hv, hrest⟩
    · exact List.forall_mem_cons.mpr ⟨hfield, ih hrest⟩

theorem bounded_put (hframes : ∀ frame ∈ frames, frame.Bounded) (hv : v.Bounded) :
    (put v frames).Bounded := by
  cases frames with
  | nil =>
    refine ⟨List.forall_mem_nil _, fun result hresult => ?_⟩
    rwa [← Expected.nothing.inj hresult]
  | cons frame rest =>
    obtain ⟨hframe, hrest⟩ := List.forall_mem_cons.mp hframes
    cases frame with
    | list items =>
      exact ⟨List.forall_mem_cons.mpr ⟨List.forall_mem_cons.mpr ⟨hv, hframe⟩, hrest⟩, nofun⟩
    | object fields key =>
      exact ⟨List.forall_mem_cons.mpr ⟨forall_setField hframe hv, hrest⟩, nofun⟩

theorem bounded_push {frame : Frame} {expected : Expected}
    (hframes : ∀ frame ∈ frames, frame.Bounded) (hframe : frame.Bounded)
    (hexpected : ∀ v, expected ≠ .nothing v) (h : push? frame expected frames = some next) :
    next.Bounded := by
  rw [push?] at h
  split at h
  · obtain rfl := Option.some.inj h
    exact ⟨List.forall_mem_cons.mpr ⟨hframe, hframes⟩, fun v hv => absurd hv (hexpected v)⟩
  · cases h

theorem bounded_beginValue (hframes : ∀ frame ∈ frames, frame.Bounded)
    (h : beginValue? Dialect.document frames token = some next) : next.Bounded := by
  have hlist : (Frame.list []).Bounded := List.forall_mem_nil _
  have hobject : (Frame.object [] []).Bounded := List.forall_mem_nil _
  cases token with
  | openList =>
    refine bounded_push hframes hlist ?_ h
    exact nofun
  | openObject =>
    refine bounded_push hframes hobject ?_ h
    exact nofun
  | text t =>
    obtain rfl := Option.some.inj h
    exact bounded_put hframes (List.forall_mem_nil _)
  | numeral n =>
    obtain ⟨v, hv, rfl⟩ := Option.map_eq_some_iff.mp h
    exact bounded_put hframes (bounded_of_bounded? hv)
  | word letters =>
    obtain ⟨v, hv, rfl⟩ := Option.map_eq_some_iff.mp h
    exact bounded_put hframes (bounded_of_constants hv)
  | _ => cases h

theorem bounded_beginField {key : Text} (hframes : ∀ frame ∈ frames, frame.Bounded)
    (h : beginField? key frames = some next) : next.Bounded := by
  unfold beginField? at h
  split at h
  · obtain rfl := Option.some.inj h
    obtain ⟨hframe, hrest⟩ := List.forall_mem_cons.mp hframes
    exact ⟨List.forall_mem_cons.mpr ⟨hframe, hrest⟩, nofun⟩
  · cases h

theorem bounded_close (hframes : ∀ frame ∈ frames, frame.Bounded)
    (h : close? frames token = some next) : next.Bounded := by
  unfold close? at h
  split at h
  · obtain rfl := Option.some.inj h
    obtain ⟨hframe, hrest⟩ := List.forall_mem_cons.mp hframes
    refine bounded_put hrest (Value.bounded_list_iff.mpr fun v hv => ?_)
    exact hframe v (List.mem_reverse.mp hv)
  · obtain rfl := Option.some.inj h
    obtain ⟨hframe, hrest⟩ := List.forall_mem_cons.mp hframes
    exact bounded_put hrest (Value.bounded_object_iff.mpr hframe)
  · cases h

/-- No token brings another integer with it. -/
theorem Bounded.step (hs : s.Bounded) (h : s.step? Dialect.document token = some next) :
    next.Bounded := by
  have hsame {expected : Expected} (hexpected : ∀ v, expected ≠ .nothing v) :
      Bounded ⟨s.frames, expected⟩ := ⟨hs.frames, fun v hv => absurd hv (hexpected v)⟩
  unfold step? at h
  split at h
  · exact bounded_beginValue hs.frames h
  · exact bounded_close hs.frames h
  · exact bounded_beginValue hs.frames h
  · exact bounded_beginField hs.frames h
  · exact bounded_beginField hs.frames h
  · exact bounded_close hs.frames h
  · obtain rfl := Option.some.inj h
    exact hsame nofun
  · split at h
    · obtain rfl := Option.some.inj h
      exact hsame nofun
    · obtain rfl := Option.some.inj h
      exact hsame nofun
    · cases h
  · exact bounded_close hs.frames h
  · cases h

theorem Bounded.run (hs : s.Bounded) {tokens : List Token}
    (h : tokens.foldlM (step? Dialect.document) s = some next) : next.Bounded := by
  induction tokens generalizing s with
  | nil =>
    obtain rfl := Option.some.inj h
    exact hs
  | cons token tokens ih =>
    obtain ⟨after, hstep, hrest⟩ := Option.bind_eq_some_iff.mp h
    exact ih (hs.step hstep) hrest

end Stack

/-- The integers of a document are those of 64 bits. -/
theorem bounded_of_ofDocument? {bytes : List UInt8} {v : Value}
    (h : Value.ofDocument? bytes = some v) : v.Bounded := by
  obtain ⟨t, -, h⟩ := Option.bind_eq_some_iff.mp h
  obtain ⟨tokens, -, h⟩ := Option.bind_eq_some_iff.mp h
  obtain ⟨last, hrun, hresult⟩ := Option.bind_eq_some_iff.mp h
  have hstart : Stack.start.Bounded := ⟨List.forall_mem_nil _, nofun⟩
  rw [Stack.result?] at hresult
  split at hresult
  · rename_i value hexpected
    obtain rfl := Option.some.inj hresult
    exact (hstart.run hrun).result value hexpected
  · cases hresult

end Json

/-! ## The tables of a document -/

namespace SideData

open ClassDefinition (references)
open Json (Value)

variable {levels : Nat} {tables : Value} {column : String} {d : SideData}

theorem HasInts.bounded {ints : List Int} (h : HasInts tables column ints)
    (htables : tables.Bounded) :
    ∀ n ∈ ints, Json.Numeral.minInteger ≤ n ∧ n ≤ Json.Numeral.maxInteger := by
  intro n hn
  have hitems := Value.bounded_list_iff.mp (htables.get? h.2)
  exact hitems (.int n) (List.mem_map_of_mem hn) n List.mem_cons_self

theorem HasLists.bounded {lists : List (List Int)} (h : HasLists tables column lists)
    (htables : tables.Bounded) :
    ∀ n ∈ lists.flatten, Json.Numeral.minInteger ≤ n ∧ n ≤ Json.Numeral.maxInteger := by
  intro n hn
  obtain ⟨ints, hints, hn⟩ := List.mem_flatten.mp hn
  have hlists := Value.bounded_list_iff.mp (htables.get? h)
  have hitems := Value.bounded_list_iff.mp (hlists (intsValue ints) (List.mem_map_of_mem hints))
  exact hitems (.int n) (List.mem_map_of_mem hn) n List.mem_cons_self

/-- Whatever the tables of a document refer to, the number can be shown. -/
theorem shows_of_mem_references {bytes : List UInt8} (h : ofBytes levels bytes = .ok d) :
    ∀ n ∈ references d, Text.shows n = true := by
  unfold ofBytes at h
  split at h
  · rename_i document hdocument
    obtain ⟨fields, hfields, hd⟩ := ofValue_eq_ok_iff.mp h
    have htables := (Json.bounded_of_ofDocument? hdocument).get? hfields
    have hall : ∀ n ∈ references d,
        Json.Numeral.minInteger ≤ n ∧ n ≤ Json.Numeral.maxInteger := by
      simp only [references, List.forall_mem_append]
      exact ⟨⟨⟨⟨⟨hd.allowedArmors.bounded htables, hd.allowedShieldsIndices.bounded htables⟩,
        hd.allowedWeaponsIndices.bounded htables⟩, hd.lockpickingDivisors.bounded htables⟩,
        hd.allowedShieldsLists.bounded htables⟩, hd.allowedWeaponsLists.bounded htables⟩
    intro n hn
    obtain ⟨hlow, hhigh⟩ := hall n hn
    simp only [Json.Numeral.minInteger, Json.Numeral.maxInteger] at hlow hhigh
    exact Text.shows_of_lt (by omega)
  · cases h

/-- The classes of tables that come from a document are there, or the tables are malformed. -/
theorem all_malformed_of_ofBytes {bytes : List UInt8} (h : ofBytes levels bytes = .ok d) :
    FailsOnly Fault.Malformed (ClassDefinition.all d) :=
  ClassDefinition.all_malformed (shows_of_mem_references h)

end SideData

end ArenaData
