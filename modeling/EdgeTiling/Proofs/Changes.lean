import EdgeTiling.Proofs.Cells

/-! What the operations on a grid change. A restriction and a decision touch one cell, every change
drops candidates and adds none, and the invariant of grids is kept. -/

namespace EdgeTiling

namespace Grid

variable {g g' : Grid} {p : Position} {allowed : Domain} {shrank : Bool} {tile : TileId}

theorem cell?_of_locate {i : Nat} {c : Cell} (h : g.locate p = .ok (i, c)) :
    g.cell? p = some c := by
  obtain ⟨hi, hc⟩ := locate_eq_ok h
  simp [cell?, hi, hc]

theorem exists_locate {c : Cell} (h : g.cell? p = some c) : ∃ i, g.locate p = .ok (i, c) := by
  obtain ⟨i, hi, hc⟩ := Option.bind_eq_some_iff.mp h
  exact ⟨i, by simp [locate, hi, hc]⟩

theorem cell?_replace {i : Nat} {c : Cell} (h : g.locate p = .ok (i, c)) (c' : Cell)
    (q : Position) :
    ({ g with cells := g.cells.setIfInBounds i c' } : Grid).cell? q =
      if q = p then some c' else g.cell? q := by
  obtain ⟨hi, hc⟩ := locate_eq_ok h
  have hlt : i < g.cells.size := (Array.getElem?_eq_some_iff.mp hc).1
  have hindex : ∀ r, ({ g with cells := g.cells.setIfInBounds i c' } : Grid).index? r =
      g.index? r := fun _ => rfl
  simp only [cell?, hindex]
  by_cases hq : q = p
  · subst hq
    simp [hi, Array.getElem?_setIfInBounds_self_of_lt hlt]
  · rw [if_neg hq]
    cases hj : g.index? q with
    | none => rfl
    | some j =>
      have hij : i ≠ j := by
        rintro rfl
        exact hq (eq_of_index? hj hi)
      simp [Array.getElem?_setIfInBounds_ne hij]

theorem valid_replace {c' : Cell} (hv : g.Valid) (hc : c'.Valid g.tileCount) (i : Nat) :
    ({ g with cells := g.cells.setIfInBounds i c' } : Grid).Valid where
  size := by simpa using hv.size
  cells c h := by
    rcases Array.mem_or_eq_of_mem_setIfInBounds h with hmem | rfl
    · exact hv.cells c hmem
    · exact hc

theorem shape_restrict (h : g.restrict p allowed = .ok (g', shrank)) : g'.shape = g.shape := by
  cases shrank with
  | false => rw [eq_of_restrict_eq_ok_false h]
  | true =>
    obtain ⟨i, c, -, -, -, -, -, rfl⟩ := restrict_eq_ok_true h
    rfl

theorem keep_of_restrict_eq_ok_false (h : g.restrict p allowed = .ok (g', false)) {c : Cell}
    (hc : g.cell? p = some c) : c.keep allowed = c := by
  obtain ⟨i, hl⟩ := exists_locate hc
  unfold restrict at h
  simp only [hl] at h
  split at h
  · contradiction
  · split at h
    · next hs =>
      obtain ⟨t, ht⟩ := Option.isSome_iff_exists.mp hs
      simp [Cell.keep, Cell.isOpen, ht]
    · split at h
      · next hd => simp [Cell.keep, hd]
      · split at h <;> simp at h

theorem cell?_restrict (h : g.restrict p allowed = .ok (g', shrank)) (q : Position) :
    g'.cell? q = if q = p then (g.cell? q).map (Cell.keep allowed) else g.cell? q := by
  by_cases hq : q = p
  · subst hq
    rw [if_pos rfl]
    cases shrank with
    | false =>
      rw [eq_of_restrict_eq_ok_false h]
      cases hc : g.cell? q with
      | none => rfl
      | some c => simp [keep_of_restrict_eq_ok_false h hc]
    | true =>
      obtain ⟨i, c, hl, ho, -, -, -, rfl⟩ := restrict_eq_ok_true h
      rw [cell?_replace hl, if_pos rfl, cell?_of_locate hl]
      simp [Cell.keep, ho]
  · rw [if_neg hq]
    cases shrank with
    | false => rw [eq_of_restrict_eq_ok_false h]
    | true =>
      obtain ⟨i, c, hl, -, -, -, -, rfl⟩ := restrict_eq_ok_true h
      rw [cell?_replace hl, if_neg hq]

theorem chosen?_restrict (h : g.restrict p allowed = .ok (g', shrank)) (q : Position) :
    g'.chosen? q = g.chosen? q := by
  simp only [chosen?, cell?_restrict h q]
  split
  · cases g.cell? q <;> simp
  · rfl

theorem admits_of_restrict (h : g.restrict p allowed = .ok (g', shrank)) {q : Position}
    {t : TileId} (ha : g'.Admits q t) : g.Admits q t := by
  obtain ⟨c', hc', ht⟩ := admits_iff.mp ha
  rw [cell?_restrict h q] at hc'
  split at hc'
  · obtain ⟨c, hc, rfl⟩ := Option.map_eq_some_iff.mp hc'
    exact (admits_of_cell? hc).mpr (Cell.has_of_has_keep ht)
  · exact (admits_of_cell? hc').mpr ht

theorem admits_restrict (h : g.restrict p allowed = .ok (g', shrank)) {q : Position} {t : TileId}
    (ha : g.Admits q t) (hall : q = p → allowed.has t = true) : g'.Admits q t := by
  obtain ⟨c, hc, ht⟩ := admits_iff.mp ha
  rw [admits_iff, cell?_restrict h q]
  split
  · next hq => exact ⟨c.keep allowed, by simp [hc], Cell.has_keep_of_has ht (hall hq)⟩
  · exact ⟨c, hc, ht⟩

/-- At the restricted cell, if it is open, exactly the allowed candidates stay. -/
theorem admits_restrict_self (h : g.restrict p allowed = .ok (g', shrank))
    (ho : g.isResolved p = false) {t : TileId} :
    g'.Admits p t ↔ g.Admits p t ∧ allowed.has t = true := by
  simp only [admits_iff, cell?_restrict h p, if_pos]
  cases hc : g.cell? p with
  | none => simp
  | some c => simp [Cell.has_keep ((isResolved_of_cell? hc).mp ho)]

theorem valid_restrict (hv : g.Valid) (h : g.restrict p allowed = .ok (g', shrank)) :
    g'.Valid := by
  cases shrank with
  | false => rwa [eq_of_restrict_eq_ok_false h]
  | true =>
    obtain ⟨i, c, hl, ho, -, -, hne, rfl⟩ := restrict_eq_ok_true h
    have hc := hv.cell (cell?_of_locate hl)
    apply valid_replace hv
    constructor
    · simpa using hc.width
    · exact Domain.size_pos_iff.mp (Nat.pos_of_ne_zero hne)
    · intro t ht
      have hn : c.chosen = none := by simpa [Cell.isOpen] using ho
      simp [hn] at ht

theorem inside_of_restrict (h : g.restrict p allowed = .ok (g', shrank)) : g.Inside p := by
  unfold restrict at h
  split at h
  · contradiction
  · next hl => exact inside_of_cell? (cell?_of_locate hl)

theorem restrict_eq_emptyDomain {q : Position} (h : g.restrict p allowed = .error (.emptyDomain q)) :
    q = p ∧ g.Inside p ∧ g.isResolved p = false ∧ ∀ t, g.Admits p t → allowed.has t = false := by
  unfold restrict at h
  split at h
  · next hl =>
    unfold locate at hl
    split at hl
    · simp_all
    · split at hl <;> simp_all
  · next i c hl =>
    have hc := cell?_of_locate hl
    split at h
    · simp at h
    · split at h
      · contradiction
      · next ho =>
        split at h
        · contradiction
        · split at h
          · next hz =>
            have hnone : ¬ ∃ t, (c.domain.inter allowed).has t = true := by
              rw [← Domain.size_pos_iff]
              omega
            obtain rfl : p = q := by simpa using h
            refine ⟨rfl, inside_of_cell? hc, (isResolved_of_cell? hc).mpr ?_, ?_⟩
            · simpa [Cell.isOpen] using ho
            · intro t ht
              by_contra ha
              exact hnone ⟨t, by simp_all [admits_of_cell? hc]⟩
          · contradiction

/-- On a valid grid a restriction to a set of the right width fails only by emptying a cell. -/
theorem restrict_eq_error {e : GridError} (hv : g.Valid) (hp : g.Inside p)
    (hw : allowed.width = g.tileCount) (h : g.restrict p allowed = .error e) :
    e = .emptyDomain p := by
  obtain ⟨c, hc⟩ := hv.exists_cell hp
  obtain ⟨i, hl⟩ := exists_locate hc
  unfold restrict at h
  simp only [hl, hw, ne_eq, not_true_eq_false, if_false] at h
  split at h
  · contradiction
  · split at h
    · contradiction
    · split at h
      · exact (Except.error.inj h).symm
      · contradiction

theorem shape_collapse (h : g.collapse p tile = .ok g') : g'.shape = g.shape := by
  obtain ⟨i, c, -, -, -, rfl⟩ := collapse_eq_ok h
  rfl

theorem of_collapse (h : g.collapse p tile = .ok g') :
    g.isResolved p = false ∧ g.Admits p tile := by
  obtain ⟨i, c, hl, ho, ht, -⟩ := collapse_eq_ok h
  have hc := cell?_of_locate hl
  exact ⟨(isResolved_of_cell? hc).mpr ho, (admits_of_cell? hc).mpr ht⟩

theorem chosen?_collapse (h : g.collapse p tile = .ok g') (q : Position) :
    g'.chosen? q = if q = p then some tile else g.chosen? q := by
  obtain ⟨i, c, hl, -, -, rfl⟩ := collapse_eq_ok h
  simp only [chosen?, cell?_replace hl]
  split <;> rfl

theorem admits_collapse_self (h : g.collapse p tile = .ok g') {t : TileId} :
    g'.Admits p t ↔ t = tile := by
  obtain ⟨i, c, hl, -, ht, rfl⟩ := collapse_eq_ok h
  simp only [admits_iff, cell?_replace hl, if_pos, Option.some.injEq, exists_eq_left',
    Domain.has_only, and_iff_right_iff_imp]
  rintro rfl
  exact Domain.lt_width_of_has ht

theorem admits_collapse_of_ne (h : g.collapse p tile = .ok g') {q : Position} (hq : q ≠ p)
    {t : TileId} : g'.Admits q t ↔ g.Admits q t := by
  obtain ⟨i, c, hl, -, -, rfl⟩ := collapse_eq_ok h
  simp [admits_iff, cell?_replace hl, hq]

theorem admits_of_collapse (h : g.collapse p tile = .ok g') {q : Position} {t : TileId}
    (ha : g'.Admits q t) : g.Admits q t := by
  by_cases hq : q = p
  · subst hq
    obtain rfl := (admits_collapse_self h).mp ha
    exact (of_collapse h).2
  · exact (admits_collapse_of_ne h hq).mp ha

theorem valid_collapse (hv : g.Valid) (h : g.collapse p tile = .ok g') : g'.Valid := by
  obtain ⟨i, c, hl, -, ht, rfl⟩ := collapse_eq_ok h
  have hc := hv.cell (cell?_of_locate hl)
  have hlt : tile < c.domain.width := Domain.lt_width_of_has ht
  have honly : ∀ u, (Domain.only c.domain.width tile).has u = true ↔ u = tile := by
    intro u
    rw [Domain.has_only]
    exact ⟨And.right, fun hu => ⟨hu ▸ hlt, hu⟩⟩
  apply valid_replace hv
  constructor
  · simpa using hc.width
  · exact ⟨tile, (honly tile).mpr rfl⟩
  · intro t ht
    obtain rfl := Option.some.inj ht
    exact honly

theorem cell?_collapse (hv : g.Valid) (h : g.collapse p tile = .ok g') (q : Position) :
    g'.cell? q = if q = p then some ⟨.only g.tileCount tile, some tile⟩ else g.cell? q := by
  obtain ⟨i, c, hl, -, -, rfl⟩ := collapse_eq_ok h
  rw [cell?_replace hl, (hv.cell (cell?_of_locate hl)).width]

theorem cell?_collapse_of_ne (h : g.collapse p tile = .ok g') {q : Position} (hq : q ≠ p) :
    g'.cell? q = g.cell? q := by
  obtain ⟨i, c, hl, -, -, rfl⟩ := collapse_eq_ok h
  rw [cell?_replace hl, if_neg hq]

theorem exists_collapse (ho : g.isResolved p = false) (ha : g.Admits p tile) :
    ∃ g', g.collapse p tile = .ok g' := by
  obtain ⟨c, hc, ht⟩ := admits_iff.mp ha
  obtain ⟨i, hl⟩ := exists_locate hc
  have hn : c.chosen = none := by simpa [Cell.isOpen] using (isResolved_of_cell? hc).mp ho
  simp [collapse, hl, hn, ht]

namespace Narrows

theorem shape_eq (h : g.Narrows g') : g'.shape = g.shape := by
  induction h with
  | refl => rfl
  | restrict hr _ ih => rw [ih, shape_restrict hr]

theorem chosen?_eq (h : g.Narrows g') (q : Position) : g'.chosen? q = g.chosen? q := by
  induction h with
  | refl => rfl
  | restrict hr _ ih => rw [ih, chosen?_restrict hr]

theorem isResolved_eq (h : g.Narrows g') (q : Position) : g'.isResolved q = g.isResolved q := by
  rw [isResolved, isResolved, h.chosen?_eq]

theorem admits (h : g.Narrows g') {q : Position} {t : TileId} (ha : g'.Admits q t) :
    g.Admits q t := by
  induction h with
  | refl => exact ha
  | restrict hr _ ih => exact admits_of_restrict hr (ih ha)

theorem valid (h : g.Narrows g') (hv : g.Valid) : g'.Valid := by
  induction h with
  | refl => exact hv
  | restrict hr _ ih => exact ih (valid_restrict hv hr)

end Narrows

structure Shrinks (g g' : Grid) : Prop where
  shape : g'.shape = g.shape
  admits : ∀ p t, g'.Admits p t → g.Admits p t
  chosen : ∀ p t, g.chosen? p = some t → g'.chosen? p = some t

theorem Shrinks.refl (g : Grid) : g.Shrinks g := ⟨rfl, fun _ _ h => h, fun _ _ h => h⟩

theorem Shrinks.trans {a b c : Grid} (h : a.Shrinks b) (h' : b.Shrinks c) : a.Shrinks c :=
  ⟨h'.shape.trans h.shape, fun p t ht => h.admits p t (h'.admits p t ht),
    fun p t ht => h'.chosen p t (h.chosen p t ht)⟩

theorem Shrinks.isOpen (h : g.Shrinks g') {q : Position} (ho : g'.isResolved q = false) :
    g.isResolved q = false := by
  cases hq : g.chosen? q with
  | none => simp [isResolved, hq]
  | some t => simp [isResolved, h.chosen q t hq] at ho

theorem Narrows.shrinks (h : g.Narrows g') : g.Shrinks g' :=
  ⟨h.shape_eq, fun _ _ => h.admits, fun p t ht => by rwa [h.chosen?_eq]⟩

theorem shrinks_collapse (h : g.collapse p tile = .ok g') : g.Shrinks g' := by
  refine ⟨shape_collapse h, fun _ _ => admits_of_collapse h, fun q t ht => ?_⟩
  have hne : q ≠ p := by
    rintro rfl
    have ho := (of_collapse h).1
    simp [isResolved, ht] at ho
  rw [chosen?_collapse h, if_neg hne, ht]

theorem resolvedCount_add_openCount (hv : g.Valid) :
    g.resolvedCount + g.openCount = g.width * g.height := by
  have hopen : Cell.isOpen = fun c => decide ¬ c.chosen.isSome = true := by
    funext c
    cases h : c.chosen <;> simp [Cell.isOpen, h]
  rw [← hv.size, resolvedCount, openCount, hopen]
  exact Array.size_eq_countP_add_countP.symm

theorem allResolved_iff_openCount : g.allResolved = true ↔ g.openCount = 0 := by
  rw [allResolved, openCount, Array.all_eq_true_iff_forall_mem, Array.countP_eq_zero]
  simp [Cell.isOpen, Option.isSome_iff_ne_none]

end Grid

end EdgeTiling
