import EdgeTiling.Grid

/-! What a change of one cell does to the number of open cells and of candidates. -/

namespace EdgeTiling

namespace Grid

theorem locate_eq_ok {g : Grid} {p : Position} {i : Nat} {c : Cell}
    (h : g.locate p = .ok (i, c)) : g.index? p = some i ∧ g.cells[i]? = some c := by
  unfold locate at h
  split at h
  · cases h
  · split at h
    · cases h
    · cases h
      exact ⟨by assumption, by assumption⟩

/-- A restriction that drops something replaces one open cell by one with fewer candidates. -/
theorem restrict_eq_ok_true {g g' : Grid} {p : Position} {allowed : Domain}
    (h : g.restrict p allowed = .ok (g', true)) :
    ∃ i c, g.locate p = .ok (i, c) ∧ c.isOpen = true ∧ allowed.width = g.tileCount ∧
      c.domain.inter allowed ≠ c.domain ∧ (c.domain.inter allowed).size ≠ 0 ∧
      g' = { g with cells := g.cells.setIfInBounds i { c with domain := c.domain.inter allowed } } := by
  unfold restrict at h
  split at h
  · cases h
  · rename_i i c hl
    split at h
    · cases h
    · split at h
      · simp at h
      · split at h
        · simp at h
        · split at h
          · cases h
          · simp only [Except.ok.injEq, Prod.mk.injEq, and_true] at h
            refine ⟨i, c, hl, ?_, by omega, by assumption, by assumption, h.symm⟩
            simpa [Cell.isOpen] using ‹¬c.chosen.isSome = true›

theorem eq_of_restrict_eq_ok_false {g g' : Grid} {p : Position} {allowed : Domain}
    (h : g.restrict p allowed = .ok (g', false)) : g' = g := by
  unfold restrict at h
  split at h
  · cases h
  · split at h
    · cases h
    · split at h
      · simpa using h.symm
      · split at h
        · simpa using h.symm
        · split at h
          · cases h
          · simp at h

theorem collapse_eq_ok {g g' : Grid} {p : Position} {tile : TileId}
    (h : g.collapse p tile = .ok g') :
    ∃ i c, g.locate p = .ok (i, c) ∧ c.isOpen = true ∧ c.domain.has tile = true ∧
      g' = { g with cells := g.cells.setIfInBounds i ⟨.only c.domain.width tile, some tile⟩ } := by
  unfold collapse at h
  split at h
  · cases h
  · rename_i i c hl
    split at h
    · cases h
    · split at h
      · cases h
      · refine ⟨i, c, hl, ?_, by simpa using ‹¬c.domain.has tile = false›, by simpa using h.symm⟩
        simpa [Cell.isOpen] using ‹¬c.chosen.isSome = true›

private theorem countP_set_add (p : Cell → Bool) : ∀ (l : List Cell) (i : Nat) (a b : Cell),
    l[i]? = some a →
    (l.set i b).countP p + (if p a then 1 else 0) = l.countP p + (if p b then 1 else 0)
  | [], _, _, _, h => by simp at h
  | x :: l, 0, a, b, h => by
    simp only [List.getElem?_cons_zero, Option.some.injEq] at h
    subst h
    simp only [List.set_cons_zero, List.countP_cons]
    omega
  | x :: l, i + 1, a, b, h => by
    have ih := countP_set_add p l i a b (by simpa using h)
    simp only [List.set_cons_succ, List.countP_cons]
    omega

private theorem sum_set_add (f : Cell → Nat) : ∀ (l : List Cell) (i : Nat) (a b : Cell),
    l[i]? = some a → (l.set i b).foldr (fun c n => f c + n) 0 + f a =
      l.foldr (fun c n => f c + n) 0 + f b
  | [], _, _, _, h => by simp at h
  | x :: l, 0, a, b, h => by
    simp only [List.getElem?_cons_zero, Option.some.injEq] at h
    subst h
    simp only [List.set_cons_zero, List.foldr_cons]
    omega
  | x :: l, i + 1, a, b, h => by
    have ih := sum_set_add f l i a b (by simpa using h)
    simp only [List.set_cons_succ, List.foldr_cons]
    omega

theorem openCount_eq (g : Grid) : g.openCount = g.cells.toList.countP Cell.isOpen := by
  simp [openCount]

theorem openCount_restrict {g g' : Grid} {p : Position} {allowed : Domain} {shrank : Bool}
    (h : g.restrict p allowed = .ok (g', shrank)) : g'.openCount = g.openCount := by
  cases shrank with
  | false => rw [eq_of_restrict_eq_ok_false h]
  | true =>
    obtain ⟨i, c, hl, ho, -, -, -, rfl⟩ := restrict_eq_ok_true h
    obtain ⟨-, hc⟩ := locate_eq_ok hl
    have hs := countP_set_add Cell.isOpen g.cells.toList i c
      { c with domain := c.domain.inter allowed } (by simpa using hc)
    have ho' : ({ c with domain := c.domain.inter allowed } : Cell).isOpen = c.isOpen := rfl
    rw [ho'] at hs
    simp only [openCount_eq, Array.toList_setIfInBounds]
    omega

theorem candidates_restrict {g g' : Grid} {p : Position} {allowed : Domain}
    (h : g.restrict p allowed = .ok (g', true)) : g'.candidates < g.candidates := by
  obtain ⟨i, c, hl, -, -, hne, -, rfl⟩ := restrict_eq_ok_true h
  obtain ⟨-, hc⟩ := locate_eq_ok hl
  have hs := sum_set_add (·.domain.size) g.cells.toList i c
    { c with domain := c.domain.inter allowed } (by simpa using hc)
  have hlt := Domain.size_inter_lt hne
  simp only [candidates, Array.toList_setIfInBounds]
  simp only at hs
  omega

theorem openCount_collapse {g g' : Grid} {p : Position} {tile : TileId}
    (h : g.collapse p tile = .ok g') : g'.openCount + 1 = g.openCount := by
  obtain ⟨i, c, hl, ho, -, rfl⟩ := collapse_eq_ok h
  obtain ⟨-, hc⟩ := locate_eq_ok hl
  have hs := countP_set_add Cell.isOpen g.cells.toList i c
    ⟨.only c.domain.width tile, some tile⟩ (by simpa using hc)
  have hd : Cell.isOpen ⟨.only c.domain.width tile, some tile⟩ = false := rfl
  rw [ho, hd] at hs
  simp only [openCount_eq, Array.toList_setIfInBounds]
  simpa using hs

theorem Narrows.openCount_eq {g g' : Grid} (h : g.Narrows g') : g'.openCount = g.openCount := by
  induction h with
  | refl => rfl
  | restrict hr _ ih => rw [ih, openCount_restrict hr]

theorem Narrows.trans {a b c : Grid} (h : a.Narrows b) (h' : b.Narrows c) : a.Narrows c := by
  induction h with
  | refl => exact h'
  | restrict hr _ ih => exact .restrict hr (ih h')

end Grid

end EdgeTiling
