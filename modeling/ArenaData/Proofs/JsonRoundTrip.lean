import ArenaData.Proofs.JsonTokens

/-!
# Reading back what has been written

A value without floating-point numbers comes back from its document. Writing and reading meet in the
tokens: the written form of a value is scanned into certain tokens whatever stands behind it, and
from these tokens the reader makes the value whatever containers are open around it (`Spells`). The
proof goes by induction on the value; the items and fields behind the first one have a lemma of
their own, because there the reader stands behind a member and not in front of one.
-/

namespace ArenaData.Json

open Scan (run? Ends ends_cons)

variable {v : Value} {items : List Value} {fields : List (Text × Value)} {toks : List Token}

/-! ## Values that come back -/

namespace Value

/-- The value is one that documents hold as it is: its integers have 64 bits, it has no
floating-point numbers, and the keys of its objects do not repeat. -/
inductive Restorable : Value → Prop where
  | null : Restorable null
  | bool (b : Bool) : Restorable (bool b)
  | int {n : Int} : Numeral.minInteger ≤ n → n ≤ Numeral.maxInteger → Restorable (int n)
  | text (t : Text) : Restorable (text t)
  | list {items : List Value} : (∀ v ∈ items, Restorable v) → Restorable (list items)
  | object {fields : List (Text × Value)} : (fields.map Prod.fst).Nodup →
    (∀ field ∈ fields, Restorable field.2) → Restorable (object fields)

theorem depth_pos (v : Value) : 0 < v.depth := by
  cases v <;> simp [depth]

theorem allWritable_iff : allWritable items = true ↔ ∀ v ∈ items, v.isWritable = true := by
  induction items with
  | nil => simp [allWritable]
  | cons v items ih => simp [allWritable, ih]

theorem fieldsWritable_iff :
    fieldsWritable fields = true ↔ ∀ field ∈ fields, field.2.isWritable = true := by
  induction fields with
  | nil => simp [fieldsWritable]
  | cons field fields ih =>
    obtain ⟨key, v⟩ := field
    simp [fieldsWritable, ih]

theorem Restorable.isWritable (h : Restorable v) : v.isWritable = true := by
  induction h with
  | null => rfl
  | bool b => rfl
  | int hmin hmax => simp [Value.isWritable, hmin, hmax]
  | text t => rfl
  | list _ ih => exact allWritable_iff.mpr ih
  | object _ _ ih => exact fieldsWritable_iff.mpr ih

end Value

/-! ## Tokens between writing and reading -/

/-- The machine of the reader, run over tokens. -/
abbrev drive (s : Stack) (tokens : List Token) : Option Stack :=
  tokens.foldlM (Stack.step? Dialect.document) s

theorem drive_of_step {s next : Stack} {token : Token} {rest : List Token}
    (h : s.step? Dialect.document token = some next) :
    drive s (token :: rest) = drive next rest := by
  rw [drive, List.foldlM_cons, h]
  rfl

/-- The written form of the value is scanned into the tokens, and the reader makes the value of
them. -/
structure Spells (toks : List Token) (v : Value) : Prop where
  scanned : ∀ level tokens t, Ends t →
    run? ⟨tokens, .between⟩ (v.written level ++ t) = run? ⟨toks.reverse ++ tokens, .between⟩ t
  driven : ∀ frames expected rest, expected = .value ∨ expected = .firstItem →
    frames.length + v.depth ≤ Stack.depthLimit →
      drive ⟨frames, expected⟩ (toks ++ rest) = drive (.put v frames) rest

/-- A value that one token stands for. -/
theorem spells_singleton {token : Token}
    (hscan : ∀ level tokens t, Ends t →
      run? ⟨tokens, .between⟩ (v.written level ++ t) = run? ⟨token :: tokens, .between⟩ t)
    (hstep : ∀ frames expected, expected = .value ∨ expected = .firstItem →
      Stack.step? Dialect.document ⟨frames, expected⟩ token = some (.put v frames)) :
    Spells [token] v :=
  ⟨hscan, fun frames expected _ hexpected _ => drive_of_step (hstep frames expected hexpected)⟩

theorem spells_word {word : Text} (hwritten : ∀ level, v.written level = word) (hne : word ≠ [])
    (hletters : word.all isLetter = true) (hmeans : Dialect.document.word? word = some v) :
    Spells [.word word] v := by
  refine spells_singleton ?_ ?_
  · intro level tokens t ht
    rw [hwritten, Scan.run?_word hne (List.all_eq_true.mp hletters) ht]
  · intro frames expected hexpected
    have hbegin :
        Stack.beginValue? Dialect.document frames (.word word) = some (.put v frames) := by
      rw [Stack.beginValue?, hmeans]
      rfl
    rcases hexpected with rfl | rfl
    · exact hbegin
    · exact hbegin

theorem spells_int {n : Int} (hmin : Numeral.minInteger ≤ n) (hmax : n ≤ Numeral.maxInteger) :
    Spells [.numeral (.ofInt n)] (.int n) := by
  refine spells_singleton (fun level tokens t ht => Scan.run?_integer n ht) ?_
  intro frames expected hexpected
  have hbegin : Stack.beginValue? Dialect.document frames (.numeral (.ofInt n)) =
      some (.put (.int n) frames) := by
    show (Numeral.bounded? (.ofInt n)).map _ = _
    rw [Numeral.bounded?_ofInt hmin hmax]
    rfl
  rcases hexpected with rfl | rfl
  · exact hbegin
  · exact hbegin

theorem spells_text (t : Text) : Spells [.text t] (.text t) := by
  refine spells_singleton (fun level tokens rest _ => Scan.run?_stringLiteral t) ?_
  rintro frames expected (rfl | rfl)
  · rfl
  · rfl

/-! ## Containers -/

/-- Where a value has room, a container may be opened. -/
theorem push?_of_depth_le {frames : List Frame} (frame : Frame) (expected : Expected)
    (h : frames.length + v.depth ≤ Stack.depthLimit) :
    Stack.push? frame expected frames = some ⟨frame :: frames, expected⟩ := by
  have hpos := v.depth_pos
  exact if_pos (by omega)

theorem ends_comma (t : Text) : Ends (',' :: t) := ends_cons.mpr ⟨rfl, rfl⟩

theorem run?_comma (tokens : List Token) (t : Text) :
    run? ⟨tokens, .between⟩ (',' :: t) = run? ⟨.comma :: tokens, .between⟩ t :=
  Scan.run?_punctuation rfl rfl

theorem ends_lineBreak (level : Nat) (t : Text) : Ends (lineBreak level ++ t) :=
  ends_cons.mpr ⟨rfl, rfl⟩

/-- The members behind the first one of a container of this level, to its end. -/
def behind (closing : Char) (level : Nat) (members : List Text) : Text :=
  members.flatMap (',' :: lineBreak (level + 1) ++ ·) ++ (lineBreak level ++ [closing])

theorem behind_cons (closing : Char) (level : Nat) (member : Text) (members : List Text) :
    behind closing level (member :: members) =
      ',' :: (lineBreak (level + 1) ++ (member ++ behind closing level members)) := by
  simp [behind]

theorem ends_behind (closing : Char) (level : Nat) (members : List Text) (t : Text) :
    Ends (behind closing level members ++ t) := by
  cases members with
  | nil =>
    rw [behind, List.flatMap_nil, List.nil_append, List.append_assoc]
    exact ends_lineBreak level _
  | cons member members =>
    rw [behind_cons]
    exact ends_comma _

theorem enclosed_cons (opening closing : Char) (level : Nat) (member : Text) (members : List Text) :
    enclosed opening closing level (member :: members) =
      opening :: (lineBreak (level + 1) ++ (member ++ behind closing level members)) := by
  simp [enclosed, behind, Text.joinWith]

/-! ## Lists -/

/-- The same of the items behind the first one of a list, and its end. -/
structure ItemsSpell (toks : List Token) (items : List Value) : Prop where
  scanned : ∀ level tokens t,
    run? ⟨tokens, .between⟩ (behind ']' level (Value.writtenItems (level + 1) items) ++ t) =
      run? ⟨toks.reverse ++ tokens, .between⟩ t
  driven : ∀ done frames rest, frames.length + 1 + Value.itemsDepth items ≤ Stack.depthLimit →
    drive ⟨.list done :: frames, .next⟩ (toks ++ rest) =
      drive (.put (.list (done.reverse ++ items)) frames) rest

theorem exists_itemsSpell (h : ∀ v ∈ items, ∃ toks, Spells toks v) :
    ∃ toks, ItemsSpell toks items := by
  induction items with
  | nil =>
    refine ⟨[.closeList], ?_, ?_⟩
    · intro level tokens t
      show run? _ (lineBreak level ++ [']'] ++ t) = _
      rw [List.append_assoc, Scan.run?_lineBreak]
      exact Scan.run?_punctuation rfl rfl
    · intro done frames rest _
      rw [List.append_nil]
      exact drive_of_step rfl
  | cons v items ih =>
    obtain ⟨⟨first, hfirst⟩, hitems⟩ := List.forall_mem_cons.mp h
    obtain ⟨others, hothers⟩ := ih hitems
    refine ⟨.comma :: (first ++ others), ?_, ?_⟩
    · intro level tokens t
      rw [Value.writtenItems, behind_cons, List.cons_append, run?_comma, List.append_assoc,
        Scan.run?_lineBreak, List.append_assoc, hfirst.scanned _ _ _ (ends_behind _ _ _ _),
        hothers.scanned]
      simp
    · intro done frames rest hdepth
      rw [Value.itemsDepth] at hdepth
      have hcomma : Stack.step? Dialect.document ⟨.list done :: frames, .next⟩ .comma =
          some ⟨.list done :: frames, .value⟩ := rfl
      have hvalue : (Frame.list done :: frames).length + v.depth ≤ Stack.depthLimit := by
        rw [List.length_cons]
        omega
      rw [List.cons_append, drive_of_step hcomma, List.append_assoc,
        hfirst.driven _ _ _ (Or.inl rfl) hvalue]
      show drive ⟨.list (v :: done) :: frames, .next⟩ _ = _
      rw [hothers.driven _ _ _ (by omega)]
      simp

theorem exists_spells_list (h : ∀ v ∈ items, ∃ toks, Spells toks v) :
    ∃ toks, Spells toks (.list items) := by
  have hopen (frames : List Frame) (expected : Expected)
      (hexpected : expected = .value ∨ expected = .firstItem)
      (hdepth : frames.length + (Value.list items).depth ≤ Stack.depthLimit) :
      Stack.step? Dialect.document ⟨frames, expected⟩ .openList =
        some ⟨.list [] :: frames, .firstItem⟩ := by
    have hpush := push?_of_depth_le (.list []) .firstItem hdepth
    rcases hexpected with rfl | rfl
    · exact hpush
    · exact hpush
  have hbracket (tokens : List Token) (t : Text) : run? ⟨tokens, .between⟩ ('[' :: t) =
      run? ⟨.openList :: tokens, .between⟩ t := Scan.run?_punctuation rfl rfl
  cases items with
  | nil =>
    refine ⟨[.openList, .closeList], ?_, ?_⟩
    · intro level tokens t _
      show run? _ ('[' :: ']' :: t) = _
      rw [hbracket]
      exact Scan.run?_punctuation rfl rfl
    · intro frames expected rest hexpected hdepth
      rw [List.cons_append, drive_of_step (hopen frames expected hexpected hdepth)]
      exact drive_of_step rfl
  | cons v items =>
    obtain ⟨⟨first, hfirst⟩, hitems⟩ := List.forall_mem_cons.mp h
    obtain ⟨others, hothers⟩ := exists_itemsSpell hitems
    refine ⟨.openList :: (first ++ others), ?_, ?_⟩
    · intro level tokens t _
      rw [Value.written, Value.writtenItems, enclosed_cons, List.cons_append, hbracket,
        List.append_assoc, Scan.run?_lineBreak, List.append_assoc,
        hfirst.scanned _ _ _ (ends_behind _ _ _ _), hothers.scanned]
      simp
    · intro frames expected rest hexpected hdepth
      rw [List.cons_append, drive_of_step (hopen frames expected hexpected hdepth)]
      rw [Value.depth, Value.itemsDepth] at hdepth
      have hvalue : (Frame.list [] :: frames).length + v.depth ≤ Stack.depthLimit := by
        rw [List.length_cons]
        omega
      rw [List.append_assoc, hfirst.driven _ _ _ (Or.inr rfl) hvalue]
      exact hothers.driven [v] frames rest (by omega)

/-! ## Objects -/

theorem setField_of_notMem {key : Text} (h : key ∉ fields.map Prod.fst) (v : Value) :
    setField key v fields = fields ++ [(key, v)] := by
  induction fields with
  | nil => rfl
  | cons field fields ih =>
    obtain ⟨other, w⟩ := field
    rw [List.map_cons, List.mem_cons, not_or] at h
    rw [setField, if_neg (Ne.symm h.1), ih h.2, List.cons_append]

section Field

variable {key : Text} (hv : Spells toks v)
include hv

theorem Spells.field_scanned (level : Nat) (tokens : List Token) {t : Text} (ht : Ends t) :
    run? ⟨tokens, .between⟩ (stringLiteral key ++ ": ".toList ++ v.written level ++ t) =
      run? ⟨(.text key :: .colon :: toks).reverse ++ tokens, .between⟩ t := by
  have hcolon (tokens : List Token) (t : Text) : run? ⟨tokens, .between⟩ (':' :: ' ' :: t) =
      run? ⟨.colon :: tokens, .between⟩ t := by
    rw [Scan.run?_punctuation rfl rfl]
    exact Scan.run?_of_step rfl
  have htext : stringLiteral key ++ ": ".toList ++ v.written level ++ t =
      stringLiteral key ++ (':' :: ' ' :: (v.written level ++ t)) := by
    rw [List.append_assoc, List.append_assoc]
    rfl
  rw [htext, Scan.run?_stringLiteral, hcolon, hv.scanned _ _ _ ht]
  simp

theorem Spells.field_driven {before : List (Text × Value)} {last : Text} {frames : List Frame}
    {expected : Expected} (rest : List Token) (hkey : key ∉ before.map Prod.fst)
    (hexpected : expected = .key ∨ expected = .firstKey)
    (hdepth : frames.length + 1 + v.depth ≤ Stack.depthLimit) :
    drive ⟨.object before last :: frames, expected⟩ (.text key :: .colon :: toks ++ rest) =
      drive ⟨.object (before ++ [(key, v)]) key :: frames, .next⟩ rest := by
  have hname : Stack.step? Dialect.document ⟨.object before last :: frames, expected⟩ (.text key) =
      some ⟨.object before key :: frames, .colon⟩ := by
    rcases hexpected with rfl | rfl
    · rfl
    · rfl
  have hcolon : Stack.step? Dialect.document ⟨.object before key :: frames, .colon⟩ .colon =
      some ⟨.object before key :: frames, .value⟩ := rfl
  have hvalue : (Frame.object before key :: frames).length + v.depth ≤ Stack.depthLimit := by
    rwa [List.length_cons]
  rw [List.cons_append, drive_of_step hname, List.cons_append, drive_of_step hcolon,
    hv.driven _ _ _ (Or.inl rfl) hvalue, ← setField_of_notMem hkey]
  rfl

end Field

/-- The same of the fields behind the first one of an object, and its end. -/
structure FieldsSpell (toks : List Token) (fields : List (Text × Value)) : Prop where
  scanned : ∀ level tokens t,
    run? ⟨tokens, .between⟩ (behind '\x7d' level (Value.writtenFields (level + 1) fields) ++ t) =
      run? ⟨toks.reverse ++ tokens, .between⟩ t
  driven : ∀ before last frames rest, ((before ++ fields).map Prod.fst).Nodup →
    frames.length + 1 + Value.fieldsDepth fields ≤ Stack.depthLimit →
      drive ⟨.object before last :: frames, .next⟩ (toks ++ rest) =
        drive (.put (.object (before ++ fields)) frames) rest

theorem exists_fieldsSpell (h : ∀ field ∈ fields, ∃ toks, Spells toks field.2) :
    ∃ toks, FieldsSpell toks fields := by
  induction fields with
  | nil =>
    refine ⟨[.closeObject], ?_, ?_⟩
    · intro level tokens t
      show run? _ (lineBreak level ++ ['\x7d'] ++ t) = _
      rw [List.append_assoc, Scan.run?_lineBreak]
      exact Scan.run?_punctuation rfl rfl
    · intro before last frames rest _ _
      rw [List.append_nil]
      exact drive_of_step rfl
  | cons field fields ih =>
    obtain ⟨key, v⟩ := field
    obtain ⟨⟨first, (hfirst : Spells first v)⟩, hfields⟩ := List.forall_mem_cons.mp h
    obtain ⟨others, hothers⟩ := ih hfields
    refine ⟨.comma :: (.text key :: .colon :: first ++ others), ?_, ?_⟩
    · intro level tokens t
      rw [Value.writtenFields, behind_cons, List.cons_append, run?_comma, List.append_assoc,
        Scan.run?_lineBreak, List.append_assoc,
        hfirst.field_scanned _ _ (ends_behind _ _ _ _), hothers.scanned]
      simp
    · intro before last frames rest hkeys hdepth
      rw [Value.fieldsDepth] at hdepth
      have hcomma : Stack.step? Dialect.document ⟨.object before last :: frames, .next⟩ .comma =
          some ⟨.object before last :: frames, .key⟩ := rfl
      have hkey : key ∉ before.map Prod.fst := by
        intro hmem
        rw [List.map_append, List.nodup_append] at hkeys
        exact hkeys.2.2 key hmem key (by simp) rfl
      have hbefore : ((before ++ [(key, v)] ++ fields).map Prod.fst).Nodup := by
        rwa [List.append_assoc]
      rw [List.cons_append, drive_of_step hcomma, List.append_assoc,
        hfirst.field_driven _ hkey (Or.inl rfl) (by omega),
        hothers.driven _ _ _ _ hbefore (by omega), List.append_assoc]
      rfl

theorem exists_spells_object (hkeys : (fields.map Prod.fst).Nodup)
    (h : ∀ field ∈ fields, ∃ toks, Spells toks field.2) :
    ∃ toks, Spells toks (.object fields) := by
  have hopen (frames : List Frame) (expected : Expected)
      (hexpected : expected = .value ∨ expected = .firstItem)
      (hdepth : frames.length + (Value.object fields).depth ≤ Stack.depthLimit) :
      Stack.step? Dialect.document ⟨frames, expected⟩ .openObject =
        some ⟨.object [] [] :: frames, .firstKey⟩ := by
    have hpush := push?_of_depth_le (.object [] []) .firstKey hdepth
    rcases hexpected with rfl | rfl
    · exact hpush
    · exact hpush
  have hbrace (tokens : List Token) (t : Text) : run? ⟨tokens, .between⟩ ('\x7b' :: t) =
      run? ⟨.openObject :: tokens, .between⟩ t := Scan.run?_punctuation rfl rfl
  cases fields with
  | nil =>
    refine ⟨[.openObject, .closeObject], ?_, ?_⟩
    · intro level tokens t _
      show run? _ ('\x7b' :: '\x7d' :: t) = _
      rw [hbrace]
      exact Scan.run?_punctuation rfl rfl
    · intro frames expected rest hexpected hdepth
      rw [List.cons_append, drive_of_step (hopen frames expected hexpected hdepth)]
      exact drive_of_step rfl
  | cons field fields =>
    obtain ⟨key, v⟩ := field
    obtain ⟨⟨first, (hfirst : Spells first v)⟩, hfields⟩ := List.forall_mem_cons.mp h
    obtain ⟨others, hothers⟩ := exists_fieldsSpell hfields
    refine ⟨.openObject :: (.text key :: .colon :: first ++ others), ?_, ?_⟩
    · intro level tokens t _
      rw [Value.written, Value.writtenFields, enclosed_cons, List.cons_append, hbrace,
        List.append_assoc, Scan.run?_lineBreak, List.append_assoc,
        hfirst.field_scanned _ _ (ends_behind _ _ _ _), hothers.scanned]
      simp
    · intro frames expected rest hexpected hdepth
      rw [List.cons_append, drive_of_step (hopen frames expected hexpected hdepth)]
      rw [Value.depth, Value.fieldsDepth] at hdepth
      rw [List.append_assoc,
        hfirst.field_driven _ (by simp) (Or.inr rfl) (by omega)]
      exact hothers.driven [(key, v)] key frames rest hkeys (by omega)

/-! ## Documents -/

theorem Value.Restorable.exists_spells (h : v.Restorable) : ∃ toks, Spells toks v := by
  induction h with
  | null => exact ⟨_, spells_word (fun _ => rfl) (by decide) (by decide) rfl⟩
  | bool b =>
    cases b with
    | true => exact ⟨_, spells_word (fun _ => rfl) (by decide) (by decide) rfl⟩
    | false => exact ⟨_, spells_word (fun _ => rfl) (by decide) (by decide) rfl⟩
  | int hmin hmax => exact ⟨_, spells_int hmin hmax⟩
  | text t => exact ⟨_, spells_text t⟩
  | list _ ih => exact exists_spells_list ih
  | object hkeys _ ih => exact exists_spells_object hkeys ih

theorem ofText?_written (h : v.Restorable) (hdepth : v.depth ≤ Stack.depthLimit) :
    Value.ofText? Dialect.document (v.written 0) = some v := by
  obtain ⟨toks, hspells⟩ := h.exists_spells
  have hscan : tokens? (v.written 0) = some toks := by
    have hscanned := hspells.scanned 0 [] [] (by simp [Ends])
    rw [List.append_nil, List.append_nil] at hscanned
    rw [show tokens? (v.written 0) = run? ⟨[], .between⟩ (v.written 0) from rfl, hscanned]
    show some toks.reverse.reverse = _
    rw [List.reverse_reverse]
  have hdrive : drive Stack.start toks = some ⟨[], .nothing v⟩ := by
    have hdriven := hspells.driven [] .value [] (Or.inl rfl) (by simpa using hdepth)
    rw [List.append_nil] at hdriven
    exact hdriven
  rw [Value.ofText?, hscan]
  show (drive Stack.start toks).bind _ = _
  rw [hdrive]
  rfl

/-- A value whose integers are of 64 bits, without floating-point numbers and nested no deeper than
documents may be, has a document, and comes back from it. -/
theorem ofDocument?_document (h : v.Restorable) (hdepth : v.depth ≤ Stack.depthLimit) :
    ∃ t, v.document? = some t ∧ Value.ofDocument? t.string.toUTF8.data.toList = some v := by
  refine ⟨v.written 0, if_pos h.isWritable, ?_⟩
  have hdecode : ((v.written 0).string.toUTF8.data.toList.toByteArray).utf8Decode? =
      some (v.written 0).toArray := by
    have hbytes :
        (v.written 0).string.toUTF8.data.toList.toByteArray = (v.written 0).utf8Encode := by
      rw [String.toUTF8_eq_toByteArray, Text.string, String.toByteArray_ofList]
      exact ByteArray.ext (by simp [List.data_toByteArray])
    rw [hbytes, List.utf8Decode?_utf8Encode]
  rw [Value.ofDocument?, hdecode]
  exact ofText?_written h hdepth

end ArenaData.Json
