import EdgeTiling.Proofs.Spreading

/-! The cells that a pass reports. A narrowing takes candidates away and nothing puts them back, so a
cell with as many candidates as at the start has not changed so far. The narrowings with which a pass
finds its targets in that state are the first changes of their cells, one for each cell that changes
at all. -/

namespace EdgeTiling

namespace Grid

variable {ts : TileSet} {start g g' : Grid} {n : Narrowing} {trail : List Narrowing} {p : Position}

def Lessens (start g : Grid) : Prop :=
  ∀ p, g.domain? p = start.domain? p ∨ g.domainSize p < start.domainSize p

/-- On the way that the trail describes there is a moment at which `p` has changed and `q` has not. -/
def ChangesBefore (ts : TileSet) (start g : Grid) (trail : List Narrowing) (p q : Position) : Prop :=
  ∃ earlier later now, trail = earlier ++ later ∧ g.Traces ts earlier now ∧
    now.domain? p ≠ start.domain? p ∧ now.domain? q = start.domain? q

theorem domainSize_congr (h : g'.domain? p = g.domain? p) : g'.domainSize p = g.domainSize p := by
  rw [domainSize, h, domainSize]

theorem Lessens.refl (g : Grid) : g.Lessens g := fun _ => .inl rfl

theorem Lessens.domainSize_eq_iff (h : start.Lessens g) (p : Position) :
    g.domainSize p = start.domainSize p ↔ g.domain? p = start.domain? p := by
  constructor
  · intro hsize
    rcases h p with hsame | hless
    · exact hsame
    · omega
  · exact domainSize_congr

namespace Traced

theorem domain?_of_ne (h : Traced ts n g g') (hp : p ≠ n.target) : g'.domain? p = g.domain? p := by
  rw [domain?, h.cell?_of_ne hp, domain?]

theorem isResolved_eq (h : Traced ts n g g') (p : Position) : g'.isResolved p = g.isResolved p := by
  obtain ⟨d, source, -, -, -, hr, -, -⟩ := h
  rw [isResolved, chosen?_restrict hr, isResolved]

theorem domainSize_lt (h : Traced ts n g g') :
    g'.domainSize n.target < g.domainSize n.target := by
  obtain ⟨d, source, -, -, -, hr, -, -⟩ := h
  obtain ⟨i, c, hl, ho, -, hne, -, -⟩ := restrict_eq_ok_true hr
  have hc := cell?_of_locate hl
  have hc' := cell?_restrict hr n.target
  rw [if_pos rfl, hc] at hc'
  simpa [domainSize, domain?, hc, hc', Cell.keep, ho] using Domain.size_inter_lt hne

theorem lessens (h : Traced ts n g g') (hl : start.Lessens g) : start.Lessens g' := by
  intro p
  by_cases hp : p = n.target
  · subst hp
    have hlt := h.domainSize_lt
    rcases hl n.target with hsame | hless
    · have hsize := domainSize_congr hsame
      right
      omega
    · right
      omega
  · have hsame := h.domain?_of_ne hp
    rw [hsame, domainSize_congr hsame]
    exact hl p

/-- The narrowing is its target's first change exactly if its count is that of the start. -/
theorem before_eq_iff (h : Traced ts n g g') (hl : start.Lessens g) :
    n.before = start.domainSize n.target ↔ g.domain? n.target = start.domain? n.target := by
  obtain ⟨d, source, -, -, -, -, hbefore, -⟩ := h
  rw [hbefore, hl.domainSize_eq_iff]

theorem target_changed (h : Traced ts n g g') (hl : start.Lessens g) :
    g'.domain? n.target ≠ start.domain? n.target := by
  intro hsame
  have hlt := h.domainSize_lt
  have hsize := domainSize_congr hsame
  rcases hl n.target with hold | hless
  · have hold := domainSize_congr hold
    omega
  · omega

theorem changed (h : Traced ts n g g') (hl : start.Lessens g) (hp : g.domain? p ≠ start.domain? p) :
    g'.domain? p ≠ start.domain? p := by
  by_cases htarget : p = n.target
  · rw [htarget]
    exact h.target_changed hl
  · rwa [h.domain?_of_ne htarget]

end Traced

namespace Traces

theorem changed (h : g.Traces ts trail g') (hl : start.Lessens g)
    (hp : g.domain? p ≠ start.domain? p) : g'.domain? p ≠ start.domain? p := by
  induction h with
  | refl => exact hp
  | narrow hn _ ih => exact ih (hn.lessens hl) (hn.changed hl hp)

theorem isOpen_of_mem (h : g.Traces ts trail g') (hn : n ∈ trail) :
    g.isResolved n.target = false := by
  induction h with
  | refl => contradiction
  | narrow hfirst _ ih =>
    rcases List.mem_cons.mp hn with rfl | hlater
    · obtain ⟨d, source, -, -, ho, -⟩ := hfirst
      exact ho
    · rw [← hfirst.isResolved_eq]
      exact ih hlater

end Traces

@[simp] theorem firstChanges_nil (start : Grid) : start.firstChanges [] = [] := rfl

theorem firstChanges_cons (start : Grid) (n : Narrowing) (trail : List Narrowing) :
    firstChanges start (n :: trail) =
      if n.before = start.domainSize n.target then n.target :: firstChanges start trail
      else firstChanges start trail := by
  by_cases h : n.before = start.domainSize n.target <;> simp [firstChanges, h]

@[simp] theorem firstChanges_append (start : Grid) (trail later : List Narrowing) :
    start.firstChanges (trail ++ later) = start.firstChanges trail ++ start.firstChanges later := by
  simp [firstChanges]

/-- The first changes of a trail are those of the cells that it finds unchanged and leaves changed. -/
theorem Traces.mem_firstChanges (h : g.Traces ts trail g') (hl : start.Lessens g) :
    p ∈ firstChanges start trail ↔
      g.domain? p = start.domain? p ∧ g'.domain? p ≠ start.domain? p := by
  induction h with
  | refl g => simp
  | @narrow g now g' n trail hn hrest ih =>
    have ih := ih (hn.lessens hl)
    have hchanged := hn.target_changed hl
    have hfirst := hn.before_eq_iff hl
    rw [firstChanges_cons]
    by_cases hp : p = n.target
    · subst hp
      have hend := hrest.changed (hn.lessens hl) hchanged
      split
      · next hb => simp [hfirst.mp hb, hend]
      · next hb => simp [ih, mt hfirst.mpr hb, hchanged]
    · have hsame := hn.domain?_of_ne hp
      rw [hsame] at ih
      split
      · rw [List.mem_cons, ih, or_iff_right hp]
      · exact ih

theorem Traces.pairwise_firstChanges (h : g.Traces ts trail g') (hl : start.Lessens g) :
    (firstChanges start trail).Pairwise (ChangesBefore ts start g trail) := by
  induction h with
  | refl g => exact .nil
  | @narrow g now g' n trail hn hrest ih =>
    have hl' := hn.lessens hl
    -- a moment of the rest comes after the first narrowing
    have hlater : (firstChanges start trail).Pairwise (ChangesBefore ts start g (n :: trail)) := by
      refine (ih hl').imp ?_
      rintro p q ⟨earlier, later, mid, rfl, htrace, hp, hq⟩
      exact ⟨n :: earlier, later, mid, rfl, .narrow hn htrace, hp, hq⟩
    rw [firstChanges_cons]
    split
    · refine .cons (fun q hq => ?_) hlater
      obtain ⟨hsame, -⟩ := (hrest.mem_firstChanges hl').mp hq
      exact ⟨[n], trail, now, rfl, .narrow hn (.refl now), hn.target_changed hl, hsame⟩
    · exact hlater

end Grid

/-- `cells` are the cells whose candidates differ between `g` and the grid that the pass left, each
once, all of them open, and in the order in which they first changed. -/
structure Pass.Records (ts : TileSet) (g : Grid) (pass : Pass) (cells : List Position) : Prop where
  nodup : cells.Nodup
  isOpen : ∀ p ∈ cells, g.isResolved p = false ∧ pass.grid.isResolved p = false
  mem_iff : ∀ p, p ∈ cells ↔ pass.grid.domain? p ≠ g.domain? p
  traces : g.Traces ts pass.trail pass.grid
  ordered : cells.Pairwise (Grid.ChangesBefore ts g g pass.trail)

theorem records_propagate (ts : TileSet) (g : Grid) (seeds : List Position) :
    (propagate ts g seeds).Records ts g (propagate ts g seeds).narrowed := by
  have htraces := traces_flood ts g seeds
  have hordered := htraces.pairwise_firstChanges (.refl g)
  refine ⟨?_, fun p hp => ?_, fun p => ?_, htraces, hordered⟩
  · refine hordered.imp ?_
    rintro p q ⟨-, -, now, -, -, hp, hq⟩ rfl
    exact hp hq
  · obtain ⟨n, hn, rfl⟩ := List.mem_map.mp hp
    have ho := htraces.isOpen_of_mem (List.mem_filter.mp hn).1
    exact ⟨ho, ((narrows_flood ts g seeds).isResolved_eq _).trans ho⟩
  · exact (htraces.mem_firstChanges (.refl g)).trans (and_iff_right rfl)

end EdgeTiling
