import EdgeTiling.Proofs.Consistency

/-! A contradiction is a refutation. Take any tiling of the grid that keeps to the given restrictions
and to the decisions made so far. Its tiles are candidates from the start, no pass drops one of
them, and so no cell runs out of candidates. -/

namespace EdgeTiling

structure TileSet.Tiling (ts : TileSet) (width height : Nat) (f : Position → TileId) : Prop where
  known : ∀ p, p.x < width → p.y < height → f p < ts.size
  fits : ∀ p q d, p.x < width → p.y < height → q.x < width → q.y < height → p.step d = some q →
    ts.compatible (f p) (f q) d = true

def Family.single (f : Position → TileId) : Family := fun p t => t = f p

section Survival

variable {ts : TileSet} {g g' : Grid} {f : Position → TileId} {width height : Nat}

theorem TileSet.Tiling.closed (h : ts.Tiling width height f)
    (hg : g.shape = (width, height, ts.size)) : ts.Closed g (.single f) := by
  rintro p q d hp hq - t rfl
  obtain ⟨hstep, hqin⟩ := Grid.mem_neighbors.mp hq
  obtain ⟨hpx, hpy⟩ := (Grid.inside_iff_of_shape hg).mp hp
  obtain ⟨hqx, hqy⟩ := (Grid.inside_iff_of_shape hg).mp hqin
  exact ⟨f p, rfl, h.fits p q d hpx hpy hqx hqy hstep⟩

theorem TileSet.Tiling.holds_new (h : ts.Tiling width height f)
    (hg : Grid.new width height ts.size = .ok g) : g.Holds (.single f) := by
  rintro p t hp rfl
  obtain ⟨hpx, hpy⟩ := (Grid.inside_iff_of_shape (Grid.shape_new hg)).mp hp
  exact (Grid.admits_new hg hp).mpr (h.known p hpx hpy)

theorem Grid.holds_collapse {p : Position} {tile : TileId} (hc : g.collapse p tile = .ok g')
    (hf : f p = tile) (hg : g.Holds (.single f)) : g'.Holds (.single f) := by
  rintro q t hq rfl
  by_cases hqp : q = p
  · rw [hqp]
    exact (Grid.admits_collapse_self hc).mpr hf
  · rw [Grid.inside_of_shape (Grid.shape_collapse hc)] at hq
    exact (Grid.admits_collapse_of_ne hc hqp).mpr (hg q _ hq rfl)

/-- A pass over a grid that holds a tiling keeps it and does not fail. -/
theorem TileSet.Tiling.holds_propagate (h : ts.Tiling width height f) (hv : g.Valid)
    (hs : g.shape = (width, height, ts.size)) (hg : g.Holds (.single f)) (seeds : List Position) :
    (propagate ts g seeds).grid.Holds (.single f) ∧ (propagate ts g seeds).failure = none :=
  EdgeTiling.holds_propagate hv (congrArg (·.2.2) hs) (h.closed hs) hg (fun p _ => ⟨f p, rfl⟩) seeds

end Survival

namespace Engine

variable {σ : Type} {ts : TileSet} {scheduler : Scheduler σ} {agenda : σ} {width height : Nat}
  {given : List Given} {f : Position → TileId}

/-- The grid still admits the assignment, and there is no contradiction. -/
def Survives (f : Position → TileId) (s : Solve σ Unit) : Prop :=
  s.grid.Holds (.single f) ∧ ∀ p, s.status ≠ .contradiction p

theorem survives_of_opening {s : Solve σ Unit} (h : ts.Tiling width height f)
    (hgiven : ∀ p tiles, (p, tiles) ∈ given → p.x < width → p.y < height → f p ∈ tiles)
    (hs : Opening (flooding ts scheduler agenda) width height given s) : Survives f s := by
  have happlied : ∀ {full g stop}, Grid.new width height ts.size = .ok full →
      applyGiven ts full given = .ok (g, stop) →
      g.Valid ∧ g.shape = (width, height, ts.size) ∧ g.Holds (.single f) ∧ stop = none := by
    intro full g stop hfull happ
    have hshape := Grid.shape_new hfull
    have hnar := narrows_applyGiven happ
    refine ⟨hnar.valid (Grid.valid_new hfull), hnar.shape_eq.trans hshape, ?_⟩
    refine holds_applyGiven happ ?_ (h.holds_new hfull) fun p _ => ⟨f p, rfl⟩
    rintro p tiles hx hp t rfl
    obtain ⟨hpx, hpy⟩ := (Grid.inside_iff_of_shape hshape).mp hp
    exact hgiven p tiles hx hpx hpy
  cases hs with
  | emptied hfull happ => simpa using (happlied hfull happ).2.2.2
  | blocked hfull happ hpass hf =>
    obtain rfl := pass_flooding hpass
    obtain ⟨hv, hs, hg, -⟩ := happlied hfull happ
    simp [(h.holds_propagate hv hs hg _).2] at hf
  | ready hfull happ hpass hf hgrid hstatus =>
    obtain rfl := pass_flooding hpass
    obtain ⟨hv, hs, hg, -⟩ := happlied hfull happ
    refine ⟨?_, by simp [hstatus]⟩
    rw [hgrid]
    exact (h.holds_propagate hv hs hg _).1

theorem survives_step {s : Solve σ Unit} (h : ts.Tiling width height f)
    (hreach : (flooding ts scheduler agenda).Reaches width height given s) (hs : Survives f s)
    (hmade : ∀ c ∈ ((flooding ts scheduler agenda).step s).solve.history, f c.position = c.tile) :
    Survives f ((flooding ts scheduler agenda).step s).solve := by
  rcases kept_or_flooded ts scheduler agenda s with
    ⟨hgrid, -, hstatus⟩ | ⟨p, tile, g, _, _, -, hc, hgrid, hhist, hstatus⟩
  · exact ⟨hgrid ▸ hs.1, fun q hq => hs.2 q (hstatus q hq)⟩
  · have hf : f p = tile := hmade ⟨p, tile⟩ (by simp [hhist])
    obtain ⟨hholds, hpass⟩ :=
      h.holds_propagate (Grid.valid_collapse (coherent_of_reaches hreach).valid hc)
        ((Grid.shape_collapse hc).trans hreach.shape_eq) (Grid.holds_collapse hc hf hs.1) [p]
    refine ⟨hgrid ▸ hholds, fun q hq => ?_⟩
    rw [hstatus q hq] at hpass
    contradiction

/-- Where a solve ends in a contradiction, no tiling keeps to its restrictions and decisions. -/
theorem no_tiling_of_contradiction {now : Solve σ Unit} {p : Position}
    (h : (flooding ts scheduler agenda).Reaches width height given now)
    (hno : now.status = .contradiction p) :
    ¬ ∃ f, ts.Tiling width height f ∧
      (∀ q tiles, (q, tiles) ∈ given → q.x < width → q.y < height → f q ∈ tiles) ∧
      ∀ c ∈ now.history, f c.position = c.tile := by
  rintro ⟨f, htiling, hgiven, hmade⟩
  have hsurv : Survives f now := by
    refine h.invariant (P := fun s => (∀ c ∈ s.history, f c.position = c.tile) → Survives f s)
      ?_ ?_ hmade
    · intro s hs _
      exact survives_of_opening htiling hgiven hs
    · intro s hreach hs hmade
      exact survives_step htiling hreach (hs fun c hc => hmade c (mem_history_step hc)) hmade
  exact hsurv.2 p hno

end Engine

/-- Tiles for the four corners of a ring of four, in two colours each; the last corner changes the
colour, so the colours never agree all the way round, although each corner fits its neighbours. -/
def twistedRing : List Tile :=
  [("0", "1"), ("1", "0")].flatMap fun (b, other) =>
    [⟨"x" ++ b, ⟨"n", b, "n", b⟩, 1⟩, ⟨"y" ++ b, ⟨"n", b, b, "n"⟩, 1⟩,
      ⟨"z" ++ b, ⟨b, "n", b, "n"⟩, 1⟩, ⟨"w" ++ b, ⟨other, "n", "n", b⟩, 1⟩]

def TileSet.twisted : TileSet where
  tiles := twistedRing.toArray
  index := .ofTiles twistedRing
  nonempty := by simp [twistedRing]
  faultless := by decide +kernel
  index_eq := rfl

def TileSet.twistedCorners : List Given :=
  [(⟨0, 0⟩, [0, 4]), (⟨1, 0⟩, [1, 5]), (⟨1, 1⟩, [2, 6]), (⟨0, 1⟩, [3, 7])]

namespace Engine

/-- The ring starts well and breaks at its first decision. -/
theorem no_tiling_of_contradiction_twisted : ∃ now,
    (standard .twisted .firstMinimum).Reaches 2 2 TileSet.twistedCorners now ∧
      (now.status, now.history) = (.contradiction ⟨1, 1⟩, [⟨⟨0, 0⟩, 0⟩]) ∧
      ¬ ∃ f, TileSet.twisted.Tiling 2 2 f ∧
        (∀ q tiles, (q, tiles) ∈ TileSet.twistedCorners → q.x < 2 → q.y < 2 → f q ∈ tiles) ∧
        ∀ c ∈ now.history, f c.position = c.tile := by
  obtain ⟨now, h, hnow⟩ : ∃ now,
      (standard .twisted .firstMinimum).Reaches 2 2 TileSet.twistedCorners now ∧
        (now.status, now.history) = (.contradiction ⟨1, 1⟩, [⟨⟨0, 0⟩, 0⟩]) :=
    exists_reaches 5 [.step] (by decide +kernel)
  exact ⟨now, h, hnow, no_tiling_of_contradiction h (congrArg Prod.fst hnow)⟩

end Engine

end EdgeTiling
