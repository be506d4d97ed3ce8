import ArenaData.Proofs.SoundTrees

/-!
# Paths read back from their texts

A path whose names are names has one text, and that text spells the path (`ofText_text`): the
slashes in front tell where it starts, and the pieces between the others are its names again. So
nothing is lost where paths are kept as texts.
-/

namespace ArenaData.Path

variable {t first : Text} {rest : List Text}

/-- What is kept of the pieces between slashes. -/
def keptPieces (pieces : List Text) : List Text :=
  pieces.filter fun part => !part.isEmpty && part != dot

theorem ofText_eq (t : Text) : ofText t = ⟨anchorOf t, keptPieces (splitFrom [] t)⟩ := rfl

theorem keptPieces_eq_self {pieces : List Text} (h : ∀ part ∈ pieces, IsPart part) :
    keptPieces pieces = pieces := by
  refine List.filter_eq_self.mpr fun part hpart => ?_
  obtain ⟨hne, hdot, -⟩ := h part hpart
  simp [hne, hdot]

theorem splitFrom_append_slash (h : slash ∉ first) (current t : Text) :
    splitFrom current (first ++ slash :: t) = (current.reverse ++ first) :: splitFrom [] t := by
  induction first generalizing current with
  | nil => rw [List.nil_append, splitFrom, if_pos rfl, List.append_nil]
  | cons c first ih =>
    have hc : c ≠ slash := fun e => h (e ▸ List.mem_cons_self)
    rw [List.cons_append, splitFrom, if_neg hc, ih fun hmem => h (List.mem_cons_of_mem c hmem)]
    simp

/-- Names without slashes are the pieces of their text. -/
theorem splitFrom_joinWith (hfirst : slash ∉ first) (hrest : ∀ name ∈ rest, slash ∉ name) :
    splitFrom [] (Text.joinWith [slash] (first :: rest)) = first :: rest := by
  induction rest generalizing first with
  | nil =>
    rw [Text.joinWith, List.flatMap_nil, List.append_nil, splitFrom_of_slash_notMem hfirst]
    rfl
  | cons second rest ih =>
    obtain ⟨hsecond, hrest⟩ := List.forall_mem_cons.mp hrest
    have hcut := splitFrom_append_slash hfirst [] (Text.joinWith [slash] (second :: rest))
    have hjoin : Text.joinWith [slash] (first :: second :: rest) =
        first ++ slash :: Text.joinWith [slash] (second :: rest) := by
      simp [Text.joinWith]
    rw [hjoin, hcut, ih hsecond hrest]
    rfl

/-! ## Starts -/

theorem anchorOf_append (anchor : Anchor) (h : t.head? ≠ some slash) :
    anchorOf (anchorText anchor ++ t) = anchor := by
  have hslashes : ∀ c ∈ anchorText anchor, (c == slash) = true := by
    cases anchor <;> simp [anchorText, slash]
  have hfront : (anchorText anchor ++ t).takeWhile (· == slash) = anchorText anchor := by
    rw [List.takeWhile_append_of_pos hslashes]
    cases t with
    | nil => simp
    | cons c t =>
      have hc : c ≠ slash := fun e => h (congrArg some e)
      rw [List.takeWhile_cons_of_neg (by simpa using hc), List.append_nil]
  rw [anchorOf, hfront]
  cases anchor <;> rfl

/-- The slashes in front make no names. -/
theorem keptPieces_anchorText (anchor : Anchor) (t : Text) :
    keptPieces (splitFrom [] (anchorText anchor ++ t)) = keptPieces (splitFrom [] t) := by
  cases anchor <;> rfl

/-! ## Reading back -/

theorem text_of_ne_nil {p : Path} (h : p.parts ≠ []) :
    p.text = anchorText p.anchor ++ Text.joinWith [slash] p.parts := by
  rw [text]
  split
  · rename_i hparts
    exact absurd hparts h
  · rfl

theorem text_nil (anchor : Anchor) : ofText (text ⟨anchor, []⟩) = ⟨anchor, []⟩ := by
  cases anchor <;> rfl

/-- A path whose names are names is read back from its text. -/
theorem ofText_text {p : Path} (h : p.Spelled) : ofText p.text = p := by
  obtain ⟨anchor, parts⟩ := p
  cases parts with
  | nil => exact text_nil anchor
  | cons first rest =>
    obtain ⟨⟨hne, hdot, hslash⟩, hrest⟩ := List.forall_mem_cons.mp h
    have hhead : (Text.joinWith [slash] (first :: rest)).head? ≠ some slash := by
      obtain ⟨c, name, rfl⟩ := List.exists_cons_of_ne_nil hne
      exact fun hc => hslash (Option.some.inj hc ▸ List.mem_cons_self)
    have hpieces := splitFrom_joinWith hslash fun name hname => (hrest name hname).2.2
    rw [text_of_ne_nil (List.cons_ne_nil first rest), ofText_eq, anchorOf_append anchor hhead,
      keptPieces_anchorText, hpieces, keptPieces_eq_self h]

theorem text_ne_nil (p : Path) (h : p.Spelled) : p.text ≠ [] := by
  intro hnil
  have hback := ofText_text h
  rw [hnil] at hback
  rw [← hback] at hnil
  exact absurd hnil (by decide)

end ArenaData.Path
