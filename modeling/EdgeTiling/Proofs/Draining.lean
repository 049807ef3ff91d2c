import EdgeTiling.Proofs.Worklist

/-! The queue of a pass runs dry. A cell is put into it only after it has lost a candidate, and a grid
has only so many to lose; so whatever the tile set and the seeds, a pass looks at no more cells than
there are seeds and candidates lost together. -/

namespace EdgeTiling

theorem Grid.Traces.length_le {ts : TileSet} {g g' : Grid} {trail : List Narrowing}
    (h : g.Traces ts trail g') : trail.length + g'.candidates ≤ g.candidates := by
  induction h with
  | refl => simp
  | narrow hn _ ih =>
    obtain ⟨d, source, -, -, -, hr, -, -⟩ := hn
    have hlost := candidates_restrict hr
    rw [List.length_cons]
    omega

theorem Grid.Traces.after_lt {ts : TileSet} {g g' : Grid} {trail : List Narrowing} {n : Narrowing}
    (h : g.Traces ts trail g') (hn : n ∈ trail) : n.after < n.before := by
  induction h with
  | refl => contradiction
  | narrow hfirst _ ih =>
    rcases List.mem_cons.mp hn with rfl | hlater
    · have hlt := hfirst.domainSize_lt
      obtain ⟨d, source, -, -, -, -, hbefore, hafter⟩ := hfirst
      rwa [hbefore, hafter]
    · exact ih hlater

namespace Worklist

variable {ts : TileSet} {w w' : Worklist} {taken : List Position}

theorem Ends.queue_eq_nil {result : EStateM.Result Halt Worklist Unit} (h : Ends ts w taken result)
    (hok : result = .ok () w') : w'.queue = [] := by
  induction h with
  | dry hq =>
    cases hok
    exact hq
  | halt => contradiction
  | next _ _ _ ih => exact ih hok

/-- Over any tile set and from any seeds, a pass on a grid that came about by any calls comes to its
end, in one way only. The cells it takes from the queue are the seeds and then the targets of its
narrowings, in this order, and if nothing cuts it short it takes them all. Each narrowing takes a
candidate from a cell that is still to be decided, so the cells taken are at most as many as the seeds
and the candidates lost. -/
theorem queue_runs_dry {width height n : Nat} {full g : Grid} {ops : List Grid.Operation}
    (hfull : Grid.new width height n = .ok full) (hg : full.performAll ops = g) (ts : TileSet)
    (seeds already : List Position) :
    ∃ taken w', w'.grid = (propagateInto ts g seeds already).grid ∧
      (∀ taken' result, Ends ts (start g seeds already) taken' result ↔
        taken' = taken ∧ result = outcome (propagateInto ts g seeds already).failure w') ∧
      taken ++ w'.queue = seeds ++ (propagateInto ts g seeds already).trail.map (·.target) ∧
      ((propagateInto ts g seeds already).failure = none → w'.queue = []) ∧
      (∀ narrowing ∈ (propagateInto ts g seeds already).trail,
        g.isResolved narrowing.target = false ∧ narrowing.after < narrowing.before) ∧
      w'.grid.candidates ≤ g.candidates ∧
      taken.length ≤ seeds.length + (g.candidates - w'.grid.candidates) := by
  have hv : g.Valid := hg ▸ Grid.valid_performAll (Grid.valid_new hfull) ops
  obtain ⟨taken, w', hgrid, -, htaken, hends⟩ :=
    exists_ends ts g seeds _ (sound_start hv seeds already) rfl rfl
  have htraces : g.Traces ts (flood ts g seeds).trail w'.grid := hgrid ▸ traces_flood ts g seeds
  have hlost := htraces.length_le
  have hlength := congrArg List.length htaken
  simp only [List.length_append, List.length_map] at hlength
  refine ⟨taken, w', hgrid, fun taken' result => ⟨fun h => h.unique hends, ?_⟩, htaken,
    fun hnone => ?_, fun m hm => ⟨htraces.isOpen_of_mem hm, htraces.after_lt hm⟩, by omega,
    by omega⟩
  · rintro ⟨rfl, rfl⟩
    exact hends
  · refine hends.queue_eq_nil ?_
    rw [show (flood ts g seeds).failure = none from hnone]
    rfl

/-- A row of three over two tiles that do not go together, with its first cell decided. -/
def headed : Grid := ⟨3, 1, 2, #[⟨.only 2 1, some 1⟩, ⟨.full 2, none⟩, ⟨.full 2, none⟩]⟩

/-- With a seed outside and one that is repeated, the pass takes three seeds and the two cells that
lose a candidate: as many as it may. -/
theorem queue_runs_dry_headed : ∃ full, Grid.new 3 1 2 = .ok full ∧
    full.performAll [.collapse ⟨0, 0⟩ 1] = headed ∧
    ∃ w', w'.grid.candidates = 3 ∧ headed.candidates = 5 ∧
      Ends .plains (start headed [⟨7, 7⟩, ⟨0, 0⟩, ⟨0, 0⟩] [])
        [⟨7, 7⟩, ⟨0, 0⟩, ⟨0, 0⟩, ⟨1, 0⟩, ⟨2, 0⟩] (.ok () w') ∧
      [(⟨7, 7⟩ : Position), ⟨0, 0⟩, ⟨0, 0⟩, ⟨1, 0⟩, ⟨2, 0⟩].length ≤ 3 + (5 - 3) := by
  obtain ⟨full, hfull, hg⟩ : ∃ full, Grid.new 3 1 2 = .ok full ∧
      full.performAll [.collapse ⟨0, 0⟩ 1] = headed := ⟨_, rfl, by decide +kernel⟩
  have hpass : propagateInto .plains headed [⟨7, 7⟩, ⟨0, 0⟩, ⟨0, 0⟩] [] =
      ⟨⟨3, 1, 2, #[⟨.only 2 1, some 1⟩, ⟨.only 2 1, none⟩, ⟨.only 2 1, none⟩]⟩,
        [⟨1, 0⟩, ⟨2, 0⟩], [⟨⟨0, 0⟩, ⟨1, 0⟩, 2, 1⟩, ⟨⟨1, 0⟩, ⟨2, 0⟩, 2, 1⟩], none⟩ := by
    decide +kernel
  obtain ⟨taken, w', hgrid, hends, htaken, hdry, -, -, hle⟩ :=
    queue_runs_dry hfull hg .plains [⟨7, 7⟩, ⟨0, 0⟩, ⟨0, 0⟩] []
  rw [hpass] at hgrid hends htaken hdry
  rw [hdry rfl, List.append_nil] at htaken
  subst htaken
  have hleft : w'.grid.candidates = 3 := by
    rw [hgrid]
    decide
  have hstart : headed.candidates = 5 := by decide
  rw [hleft, hstart] at hle
  exact ⟨full, hfull, hg, w', hleft, hstart, (hends _ _).mpr ⟨rfl, rfl⟩, hle⟩

end Worklist

end EdgeTiling
