import EdgeTiling.Proofs.Spreading
import EdgeTiling.Proofs.Steps

/-! The grid in the course of a solve: a new grid admits every tile everywhere, the given
restrictions leave at each cell what all of them allow, the first pass decides no cell, and from
then on candidates are only lost and decisions only made. -/

namespace EdgeTiling

namespace Grid

variable {width height n : Nat} {g : Grid}

theorem new_eq_ok (h : Grid.new width height n = .ok g) :
    0 < width ∧ 0 < height ∧
      g = ⟨width, height, n, Array.replicate (width * height) ⟨.full n, none⟩⟩ ∧ 0 < n := by
  unfold Grid.new at h
  split at h
  · contradiction
  · split at h
    · contradiction
    · split at h
      · contradiction
      · exact ⟨by omega, by omega, (Except.ok.inj h).symm, by omega⟩

theorem shape_new (h : Grid.new width height n = .ok g) : g.shape = (width, height, n) := by
  obtain ⟨-, -, rfl, -⟩ := new_eq_ok h
  rfl

theorem valid_new (h : Grid.new width height n = .ok g) : g.Valid := by
  obtain ⟨-, -, rfl, hn⟩ := new_eq_ok h
  constructor
  · simp
  · intro c hc
    obtain ⟨-, rfl⟩ := Array.mem_replicate.mp hc
    exact ⟨by simp, ⟨0, Domain.has_full.mpr hn⟩, by simp⟩

theorem cell?_new (h : Grid.new width height n = .ok g) {p : Position} {c : Cell}
    (hc : g.cell? p = some c) : c = ⟨.full n, none⟩ := by
  obtain ⟨-, -, rfl, -⟩ := new_eq_ok h
  obtain ⟨i, -, hi⟩ := Option.bind_eq_some_iff.mp hc
  exact (Array.mem_replicate.mp (Array.mem_of_getElem? hi)).2

theorem chosen?_new (h : Grid.new width height n = .ok g) (p : Position) : g.chosen? p = none := by
  cases hc : g.cell? p with
  | none => simp [chosen?, hc]
  | some c => simp [chosen?_of_cell? hc, cell?_new h hc]

theorem openCount_new (h : Grid.new width height n = .ok g) : g.openCount = width * height := by
  obtain ⟨-, -, rfl, -⟩ := new_eq_ok h
  simp [openCount, Array.countP_replicate, Cell.isOpen]

theorem admits_new (h : Grid.new width height n = .ok g) {p : Position} {t : TileId}
    (hp : g.Inside p) : g.Admits p t ↔ t < n := by
  obtain ⟨c, hc⟩ := (valid_new h).exists_cell hp
  rw [admits_of_cell? hc, cell?_new h hc, Domain.has_full]

end Grid

namespace Engine

variable {ts : TileSet} {g g' : Grid} {given : List Given} {stop : Option Position}

theorem narrows_applyGiven (h : applyGiven ts g given = .ok (g', stop)) : g.Narrows g' := by
  fun_induction applyGiven ts g given with
  | case1 g =>
    cases h
    exact .refl _
  | case2 => contradiction
  | case3 g p tiles rest mask hm g₁ shrank hr ih => exact .restrict hr (ih h)
  | case4 g p tiles rest mask hm q hr =>
    cases h
    exact .refl _
  | case5 => contradiction

theorem admits_applyGiven (h : applyGiven ts g given = .ok (g', none))
    (ho : ∀ p, g.chosen? p = none) {p : Position} {tiles : List TileId}
    (hx : (p, tiles) ∈ given) : g.Inside p ∧ ∀ t, g'.Admits p t → t ∈ tiles := by
  fun_induction applyGiven ts g given with
  | case1 => contradiction
  | case2 => contradiction
  | case3 g q tiles' rest mask hm g₁ shrank hr ih =>
    have ho' : ∀ r, g₁.chosen? r = none := fun r => by rw [Grid.chosen?_restrict hr, ho]
    rcases List.mem_cons.mp hx with heq | hmem
    · cases heq
      refine ⟨Grid.inside_of_restrict hr, fun t ht => ?_⟩
      have hadm := (narrows_applyGiven h).admits ht
      have hres : g.isResolved p = false := by simp [Grid.isResolved, ho]
      exact ((TileSet.mask_eq_ok hm).2 t).mp ((Grid.admits_restrict_self hr hres).mp hadm).2
    · obtain ⟨hin, hall⟩ := ih h ho' hmem
      exact ⟨(Grid.inside_of_shape (Grid.shape_restrict hr) p).mp hin, hall⟩
  | case4 => cases h
  | case5 => contradiction

/-- A family that keeps to every list survives the restrictions, and if it has a member
everywhere none of them empties a cell. -/
theorem holds_applyGiven {E : Family} (h : applyGiven ts g given = .ok (g', stop))
    (hE : ∀ p tiles, (p, tiles) ∈ given → g.Inside p → ∀ t, E p t → t ∈ tiles)
    (hg : g.Holds E) (hi : ∀ p, g.Inside p → ∃ t, E p t) : g'.Holds E ∧ stop = none := by
  fun_induction applyGiven ts g given with
  | case1 g =>
    cases h
    exact ⟨hg, rfl⟩
  | case2 => contradiction
  | case3 g q tiles rest mask hm g₁ shrank hr ih =>
    have hshape := Grid.inside_of_shape (Grid.shape_restrict hr)
    apply ih h
    · intro p tiles' hx hp
      exact hE p tiles' (List.mem_cons_of_mem _ hx) ((hshape p).mp hp)
    · intro p t hp ht
      rw [hshape] at hp
      refine Grid.admits_restrict hr (hg p t hp ht) ?_
      rintro rfl
      exact ((TileSet.mask_eq_ok hm).2 t).mpr (hE p tiles List.mem_cons_self hp t ht)
    · intro p hp
      exact hi p ((hshape p).mp hp)
  | case4 g q tiles rest mask hm r hr =>
    obtain ⟨rfl, hq, -, hnone⟩ := Grid.restrict_eq_emptyDomain hr
    obtain ⟨t, ht⟩ := hi _ hq
    have hhas := ((TileSet.mask_eq_ok hm).2 t).mpr (hE _ tiles List.mem_cons_self hq t ht)
    simp [hnone t (hg _ t hq ht)] at hhas
  | case5 => contradiction

section Courses

variable {σ π : Type} {e : Engine σ π} {width height : Nat}

theorem narrows_pass {memory memory' : π} {seeds : List Position} {pass : Pass}
    (h : e.propagator.pass memory e.tiles g seeds = (pass, memory')) : g.Narrows pass.grid := by
  have hnar := e.propagator.narrows memory e.tiles g seeds
  rwa [h] at hnar

theorem Opening.narrows {s : Solve σ π} (h : Opening e width height given s) :
    ∃ full, Grid.new width height e.tiles.size = .ok full ∧ full.Narrows s.grid := by
  cases h with
  | @emptied full p hfull happ => exact ⟨full, hfull, narrows_applyGiven happ⟩
  | @blocked full g pass memory p hfull happ hpass hf hgrid =>
    exact ⟨full, hfull, hgrid ▸ (narrows_applyGiven happ).trans (narrows_pass hpass)⟩
  | @ready full g pass memory hfull happ hpass hf hgrid =>
    exact ⟨full, hfull, hgrid ▸ (narrows_applyGiven happ).trans (narrows_pass hpass)⟩

/-- A step leaves the grid and the history as they are, or adds one decision to both. -/
theorem kept_or_collapsed (e : Engine σ π) (s : Solve σ π) :
    ((e.step s).solve.grid = s.grid ∧ (e.step s).solve.history = s.history) ∨
    ∃ p tile g, s.grid.collapse p tile = .ok g ∧ g.Narrows (e.step s).solve.grid ∧
      (e.step s).solve.history = s.history ++ [⟨p, tile⟩] := by
  have hm := step_move e s
  generalize (e.step s).result = r at hm
  generalize (e.step s).solve = s' at hm ⊢
  cases hm with
  | finished => exact .inl ⟨rfl, rfl⟩
  | exhausted => exact .inl ⟨rfl, rfl⟩
  | undrawn => exact .inl ⟨rfl, rfl⟩
  | refused => exact .inl ⟨rfl, rfl⟩
  | blocked _ _ _ hc hpass => exact .inr ⟨_, _, _, hc, narrows_pass hpass, rfl⟩
  | broken _ _ _ hc hpass => exact .inr ⟨_, _, _, hc, narrows_pass hpass, rfl⟩
  | advanced _ _ _ hc hpass => exact .inr ⟨_, _, _, hc, narrows_pass hpass, rfl⟩

theorem shrinks_step (e : Engine σ π) (s : Solve σ π) :
    s.grid.Shrinks (e.step s).solve.grid := by
  rcases kept_or_collapsed e s with ⟨hgrid, -⟩ | ⟨p, tile, g, hc, hnar, -⟩
  · rw [hgrid]
    exact .refl _
  · exact (Grid.shrinks_collapse hc).trans hnar.shrinks

theorem mem_history_step {s : Solve σ π} {c : Collapse} (hc : c ∈ s.history) :
    c ∈ (e.step s).solve.history := by
  rcases kept_or_collapsed e s with ⟨-, hhist⟩ | ⟨p, tile, g, -, -, hhist⟩
  · rwa [hhist]
  · rw [hhist]
    exact List.mem_append_left _ hc

theorem Reaches.shape_eq {now : Solve σ π} (h : e.Reaches width height given now) :
    now.grid.shape = (width, height, e.tiles.size) := by
  refine h.invariant (P := fun s => s.grid.shape = (width, height, e.tiles.size)) ?_ ?_
  · intro s hs
    obtain ⟨full, hfull, hnar⟩ := hs.narrows
    exact hnar.shape_eq.trans (Grid.shape_new hfull)
  · intro s _ hs
    exact (shrinks_step e s).shape.trans hs

theorem Reaches.width_pos {now : Solve σ π} (h : e.Reaches width height given now) : 0 < width := by
  refine h.invariant (P := fun _ => 0 < width) ?_ fun _ _ hw => hw
  intro s hs
  obtain ⟨full, hfull, -⟩ := hs.narrows
  exact (Grid.new_eq_ok hfull).1

theorem Reaches.tileCount {now : Solve σ π} (h : e.Reaches width height given now) :
    now.grid.tileCount = e.tiles.size :=
  congrArg (·.2.2) h.shape_eq

theorem Reaches.valid {now : Solve σ π} (h : e.Reaches width height given now) :
    now.grid.Valid := by
  refine h.invariant (P := fun s => s.grid.Valid) ?_ ?_
  · intro s hs
    obtain ⟨full, hfull, hnar⟩ := hs.narrows
    exact hnar.valid (Grid.valid_new hfull)
  · intro s _ hs
    rcases kept_or_collapsed e s with ⟨hgrid, -⟩ | ⟨p, tile, g, hc, hnar, -⟩
    · rwa [hgrid]
    · exact hnar.valid (Grid.valid_collapse hs hc)

theorem Reaches.length_history {now : Solve σ π} (h : e.Reaches width height given now) :
    now.history.length + now.grid.openCount = width * height := by
  refine h.invariant (P := fun s => s.history.length + s.grid.openCount = width * height) ?_ ?_
  · intro s hs
    obtain ⟨full, hfull, hnar⟩ := hs.narrows
    rw [hs.history_eq, hnar.openCount_eq]
    simp [Grid.openCount_new hfull]
  · intro s _ hs
    rcases kept_or_collapsed e s with ⟨hgrid, hhist⟩ | ⟨p, tile, g, hc, hnar, hhist⟩
    · rw [hgrid, hhist, hs]
    · have hopen := Grid.openCount_collapse hc
      rw [hhist, hnar.openCount_eq, List.length_append, List.length_singleton]
      omega

end Courses

theorem step_of_isTerminal {σ π : Type} {e : Engine σ π} {s : Solve σ π}
    (h : s.status.isTerminal = true) : (e.step s).solve = s := by
  simp [step, h]

end Engine

end EdgeTiling
