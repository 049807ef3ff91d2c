import EdgeTiling.Proofs.Lines
import EdgeTiling.Proofs.Magnitude

/-! The totals of weights. A sum of positive numbers grows with the numbers added, also when every
sum is rounded, so no set of candidates weighs more than all tiles together: draws over a tile set
always succeed if and only if the weights of all its tiles have a finite total. A tile set may
have an infinite one, since its weights are only looked at one by one. -/

namespace EdgeTiling

open EdgeTiling.Random (Stream Weighted)

namespace Random.Weighted

open SinglePrecision

variable {us ws : List Float32}

theorem total_pos (hne : ws ≠ []) (hws : ∀ w ∈ ws, 0 < w) : 0 < total ws := by
  cases ws with
  | nil => contradiction
  | cons w rest =>
    obtain ⟨hw, hrest⟩ := List.forall_mem_cons.mp hws
    exact foldl_add_pos hw hrest

theorem mag_foldl_le_foldl {v v' : Float32} (h : us.Sublist ws) (hws : ∀ w ∈ ws, 0 < w)
    (hv : 0 < v) (hv' : 0 < v') (hle : mag v ≤ mag v') :
    mag (us.foldl (· + ·) v) ≤ mag (ws.foldl (· + ·) v') := by
  induction h generalizing v v' with
  | slnil => exact hle
  | cons w _ ih =>
    obtain ⟨hw, hrest⟩ := List.forall_mem_cons.mp hws
    exact ih hrest hv (add_pos hv' hw) (hle.trans (mag_le_add_left hv' hw))
  | cons_cons w _ ih =>
    obtain ⟨hw, hrest⟩ := List.forall_mem_cons.mp hws
    exact ih hrest (add_pos hv hw) (add_pos hv' hw) (mag_add_le_add hv hw hv' hw hle le_rfl)

theorem mag_total_le_foldl {v : Float32} (h : us.Sublist ws) (hne : us ≠ [])
    (hws : ∀ w ∈ ws, 0 < w) (hv : 0 < v) : mag (total us) ≤ mag (ws.foldl (· + ·) v) := by
  induction h generalizing v with
  | slnil => contradiction
  | cons w _ ih =>
    obtain ⟨hw, hrest⟩ := List.forall_mem_cons.mp hws
    exact ih hne hrest (add_pos hv hw)
  | cons_cons w hsub _ =>
    obtain ⟨hw, hrest⟩ := List.forall_mem_cons.mp hws
    rw [total, List.foldl_cons]
    exact mag_foldl_le_foldl hsub hrest hw (add_pos hv hw) (mag_le_add_right hv hw)

theorem mag_total_le_total (h : us.Sublist ws) (hne : us ≠ []) (hws : ∀ w ∈ ws, 0 < w) :
    mag (total us) ≤ mag (total ws) := by
  cases h with
  | slnil => contradiction
  | cons w hsub =>
    obtain ⟨hw, hrest⟩ := List.forall_mem_cons.mp hws
    exact mag_total_le_foldl hsub hne hrest hw
  | cons_cons w hsub =>
    obtain ⟨hw, hrest⟩ := List.forall_mem_cons.mp hws
    exact mag_foldl_le_foldl hsub hrest hw hw le_rfl

theorem isFinite_total_of_sublist (h : us.Sublist ws) (hne : us ≠ []) (hws : ∀ w ∈ ws, 0 < w)
    (hfin : (total ws).isFinite = true) : (total us).isFinite = true := by
  have hus : ∀ w ∈ us, 0 < w := fun w hw => hws w (h.subset hw)
  have hwne : ws ≠ [] := fun hnil => hne (List.sublist_nil.mp (hnil ▸ h))
  have hle := mag_total_le_total h hne hws
  rw [isFinite_iff (total_pos hne hus)]
  rw [isFinite_iff (total_pos hwne hws)] at hfin
  exact fun htop => hfin (top_le_iff.mp (htop ▸ hle))

end Random.Weighted

namespace TileSet

variable {ts : TileSet} {d : Domain}

def weights (ts : TileSet) : List Float32 := ts.tiles.toList.map (·.weight)

theorem weight?_eq (ts : TileSet) (t : TileId) : ts.weight? t = ts.weights[t]? := by
  simp [weight?, get?, weights]

theorem filterMap_weight?_range (ts : TileSet) {n : Nat} (hn : n ≤ ts.size) :
    (List.range n).filterMap ts.weight? = ts.weights.take n := by
  induction n with
  | zero => simp
  | succ n ih =>
    rw [List.range_succ, List.filterMap_append, ih (by omega), List.take_add_one, ← weight?_eq]
    obtain ⟨w, hw, -⟩ := weight?_pos (t := n) hn
    simp [hw]

theorem filterMap_weight? (ts : TileSet) : (List.range ts.size).filterMap ts.weight? = ts.weights := by
  rw [filterMap_weight?_range ts le_rfl]
  simp [weights, size]

theorem weights_sublist (h : d.width = ts.size) :
    (d.tiles.filterMap ts.weight?).Sublist ts.weights := by
  have hsub : d.tiles.Sublist (List.range ts.size) := h ▸ List.filter_sublist
  rw [← filterMap_weight?]
  exact hsub.filterMap ts.weight?

theorem lt_size_of_mem_tiles (h : d.width = ts.size) : ∀ t ∈ d.tiles, t < ts.size :=
  fun _ ht => h ▸ Domain.lt_width_of_has (Domain.mem_tiles.mp ht)

theorem weights_ne_nil (h : d.width = ts.size) (hd : 0 < d.size) :
    d.tiles.filterMap ts.weight? ≠ [] := by
  obtain ⟨t, ht⟩ := Domain.size_pos_iff.mp hd
  have hmem := Domain.mem_tiles.mpr ht
  obtain ⟨w, hw, -⟩ := weight?_pos (lt_size_of_mem_tiles h t hmem)
  exact List.ne_nil_of_mem (List.mem_filterMap.mpr ⟨t, hmem, hw⟩)

theorem weights_of_forall_has (h : d.width = ts.size) (hall : ∀ t < ts.size, d.has t = true) :
    d.tiles.filterMap ts.weight? = ts.weights := by
  have htiles : d.tiles = List.range ts.size := by
    rw [Domain.tiles, h, List.filter_eq_self]
    exact fun t ht => hall t (List.mem_range.mp ht)
  rw [htiles, filterMap_weight?]

theorem weights_pos (ts : TileSet) : ∀ w ∈ ts.weights, 0 < w := by
  intro w hw
  rw [← filterMap_weight?] at hw
  obtain ⟨t, ht, hwt⟩ := List.mem_filterMap.mp hw
  obtain ⟨w', hw', hpos⟩ := weight?_pos (List.mem_range.mp ht)
  cases hwt.symm.trans hw'
  exact hpos

end TileSet

namespace Engine

section Draws

variable {σ π : Type} {e : Engine σ π} {s : Solve σ π} {p : Position} {agenda : σ}
  {stream : Stream} {ts : TileSet} {g : Grid}

theorem weightsAt_of_cell? {c : Cell} (h : g.cell? p = some c) :
    weightsAt ts g p = c.domain.tiles.filterMap ts.weight? := by
  simp [weightsAt, Grid.domain?, h]

theorem weightsAt_sublist (hv : g.Valid) (hn : g.tileCount = ts.size) (hp : g.Inside p) :
    (weightsAt ts g p).Sublist ts.weights ∧ weightsAt ts g p ≠ [] := by
  obtain ⟨c, hc⟩ := hv.exists_cell hp
  rw [weightsAt_of_cell? hc]
  have hw : c.domain.width = ts.size := (hv.cell hc).width.trans hn
  refine ⟨TileSet.weights_sublist hw, ?_⟩
  exact TileSet.weights_ne_nil hw (Domain.size_pos_iff.mpr (hv.cell hc).inhabited)

theorem weightsAt_of_forall_admits (hv : g.Valid) (hn : g.tileCount = ts.size) (hp : g.Inside p)
    (hall : ∀ t < ts.size, g.Admits p t) : weightsAt ts g p = ts.weights := by
  obtain ⟨c, hc⟩ := hv.exists_cell hp
  rw [weightsAt_of_cell? hc]
  exact TileSet.weights_of_forall_has ((hv.cell hc).width.trans hn)
    fun t ht => (Grid.admits_of_cell? hc).mp (hall t ht)

theorem step_weights_iff (hv : s.grid.Valid) (hn : s.grid.tileCount = e.tiles.size)
    (hs : s.status = .inProgress)
    (hsel : e.scheduler.select s.agenda s.grid s.stream = (some p, agenda, stream))
    (hp : s.grid.Inside p) : (∃ cause, (e.step s).result = .error (.weights cause)) ↔
      (Weighted.total (weightsAt e.tiles s.grid p)).isFinite = false := by
  constructor
  · rintro ⟨cause, h⟩
    have hm := step_move e s
    rw [h] at hm
    generalize (e.step s).solve = s' at hm
    cases hm with
    | undrawn _ hsel' hdraw =>
      cases hsel.symm.trans hsel'
      exact (infiniteTotal_of_chooseTile hv hn hp hdraw).2
  · intro hinf
    rcases chooseTile_inside hv hn hp stream with ⟨t, s', -, -, hfin⟩ | ⟨hfail, -⟩
    · rw [hfin] at hinf
      contradiction
    · exact ⟨.infiniteTotal, by simp [step, hs, hsel, decideAt, hfail]⟩

theorem closed_of_one_cell {n : Nat} (h : g.shape = (1, 1, n)) (E : Family) : ts.Closed g E := by
  intro p q d hp hq
  have hp' := (Grid.inside_iff_of_shape h).mp hp
  have hq' := (Grid.inside_iff_of_shape h).mp (Grid.inside_of_mem_neighbors hq)
  have heq : q = p := by
    cases p
    cases q
    simp only [Nat.lt_one_iff] at hp' hq'
    simp [hp', hq']
  exact absurd heq (Grid.ne_of_mem_neighbors hq)

/-- The first draw on a grid of one cell is among all tiles. -/
theorem first_draw_of_one_cell (ts : TileSet) (how : Selection) :
    ∃ s p agenda stream, (standard ts how).Reaches 1 1 [] s ∧ s.status = .inProgress ∧
      (standard ts how).scheduler.select s.agenda s.grid s.stream = (some p, agenda, stream) ∧
      s.grid.Inside p ∧ s.grid.isResolved p = false ∧ weightsAt ts s.grid p = ts.weights := by
  have hsize : 0 < ts.size := ts.size_pos
  obtain ⟨full, hfull⟩ : ∃ full, Grid.new 1 1 ts.size = .ok full := by
    have hword : ¬ wordLimit ≤ 1 := by decide
    simp [Grid.new, Nat.ne_of_gt hsize, hword]
  obtain ⟨s, hs⟩ : ∃ s, ((standard ts how).start 1 1 0 []).result = .ok s :=
    exists_start_of_known hfull (by simp) 0
  have hshape := Grid.shape_new hfull
  obtain ⟨hholds, hfail⟩ := holds_propagate (E := fun _ t => t < ts.size) (Grid.valid_new hfull)
    (congrArg (·.2.2) hshape) (closed_of_one_cell hshape _)
    (fun p t hp ht => (Grid.admits_new hfull hp).mpr ht) (fun p _ => ⟨0, hsize⟩) full.positions
  obtain ⟨hstatus, hgrid⟩ := ready_of_opening (opening_of_start hs) hfull hfail
  have hreach : (standard ts how).Reaches 1 1 [] s := reaches_of_start hs
  obtain ⟨p, agenda, stream, hsel, hp, ho⟩ :=
    exists_select_of_inProgress (Scheduler.faithful_fewest how) hreach hstatus
  refine ⟨s, p, agenda, stream, hreach, hstatus, hsel, hp, ho, ?_⟩
  apply weightsAt_of_forall_admits hreach.valid hreach.tileCount hp
  intro t ht
  rw [hgrid] at hp ⊢
  exact hholds p t hp ht

theorem weightsOf_accepted {d : Domain} (hd : d.width = ts.size) (hpos : 0 < d.size) :
    ∃ ws, weightsOf ts p d.tiles = .ok ws ∧ ws.Sublist ts.weights ∧ ws ≠ [] ∧
      ((Weighted.total ws).isFinite = true → ∃ x, Weighted.ofWeights ws = .ok x) ∧
      ((Weighted.total ws).isFinite = false → Weighted.ofWeights ws = .error .infiniteTotal) := by
  obtain ⟨hws, -, hall⟩ := weightsOf_eq_ok (p := p) (TileSet.lt_size_of_mem_tiles hd)
  have hne := TileSet.weights_ne_nil hd hpos
  refine ⟨_, hws, TileSet.weights_sublist hd, hne, ?_⟩
  rcases Weighted.ofWeights_of_pos hne hall with ⟨hok, hfin⟩ | ⟨hfail, hinf⟩
  · exact ⟨fun _ => hok, fun hinf => by simp [hfin] at hinf⟩
  · exact ⟨fun hfin => by simp [hinf] at hfin, fun _ => hfail⟩

theorem weightsOf_full (ts : TileSet) (p : Position) :
    weightsOf ts p (Domain.full ts.size).tiles = .ok ts.weights := by
  have hwidth := Domain.width_full ts.size
  rw [(weightsOf_eq_ok (TileSet.lt_size_of_mem_tiles hwidth)).1,
    TileSet.weights_of_forall_has hwidth fun _ ht => Domain.has_full.mpr ht]

end Draws

/-- The weights of a set of candidates are accepted unless their own total is infinite. All such
sets are accepted, and no step of any solve fails in the draw at an open cell, if and only if the
weights of all tiles have a finite total. -/
theorem draws_succeed_iff (ts : TileSet) :
    (∀ (p : Position) (d : Domain), d.width = ts.size → 0 < d.size →
      ∃ ws, weightsOf ts p d.tiles = .ok ws ∧
        ((Weighted.total ws).isFinite = true → ∃ x, Weighted.ofWeights ws = .ok x) ∧
        ((Weighted.total ws).isFinite = false → Weighted.ofWeights ws = .error .infiniteTotal)) ∧
    ((Weighted.total ts.weights).isFinite = true ↔
      ∀ (p : Position) (d : Domain), d.width = ts.size → 0 < d.size →
        ∃ ws x, weightsOf ts p d.tiles = .ok ws ∧ Weighted.ofWeights ws = .ok x ∧
          (Weighted.total ws).isFinite = true) ∧
    ((Weighted.total ts.weights).isFinite = true ↔
      ∀ (σ π : Type) (e : Engine σ π) (width height : Nat) (given : List Given) (now : Solve σ π)
        (p : Position) (agenda : σ) (stream : Stream), e.tiles = ts →
        e.Reaches width height given now → now.status = .inProgress →
        e.scheduler.select now.agenda now.grid now.stream = (some p, agenda, stream) →
        now.grid.Inside p → now.grid.isResolved p = false →
        ∀ cause, (e.step now).result ≠ .error (.weights cause)) := by
  refine ⟨?_, ⟨?_, ?_⟩, ⟨?_, ?_⟩⟩
  · intro p d hd hpos
    obtain ⟨ws, hws, -, -, haccept⟩ := weightsOf_accepted hd hpos
    exact ⟨ws, hws, haccept⟩
  · intro hfin p d hd hpos
    obtain ⟨ws, hws, hsub, hne, haccept, -⟩ := weightsOf_accepted (p := p) hd hpos
    have hpart := Weighted.isFinite_total_of_sublist hsub hne ts.weights_pos hfin
    obtain ⟨x, hx⟩ := haccept hpart
    exact ⟨ws, x, hws, hx, hpart⟩
  · intro hall
    have hfull : 0 < (Domain.full ts.size).size :=
      Domain.size_pos_iff.mpr ⟨0, Domain.has_full.mpr ts.size_pos⟩
    obtain ⟨ws, x, hws, -, hfin⟩ := hall ⟨0, 0⟩ (.full ts.size) (Domain.width_full _) hfull
    cases (weightsOf_full ts ⟨0, 0⟩).symm.trans hws
    exact hfin
  · rintro hfin σ π e width height given now p agenda stream rfl hreach hs hsel hp - cause h
    have hinf := (step_weights_iff hreach.valid hreach.tileCount hs hsel hp).mp ⟨cause, h⟩
    obtain ⟨hsub, hne⟩ := weightsAt_sublist hreach.valid hreach.tileCount hp
    rw [Weighted.isFinite_total_of_sublist hsub hne e.tiles.weights_pos hfin] at hinf
    contradiction
  · intro hall
    obtain ⟨s, p, agenda, stream, hreach, hs, hsel, hp, ho, hweights⟩ :=
      first_draw_of_one_cell ts .firstMinimum
    by_contra hinf
    rw [← hweights, Bool.not_eq_true] at hinf
    obtain ⟨cause, hfail⟩ := (step_weights_iff hreach.valid hreach.tileCount hs hsel hp).mpr hinf
    exact hall _ _ _ 1 1 [] s p agenda stream rfl hreach hs hsel hp ho cause hfail

/-- An infinitely heavy tile makes a tile set, and the first draw of a solve fails. -/
theorem draw_fails_of_infinite_weight : ∃ ts s,
    TileSet.ofTiles [⟨"lead", .uniform "a", Float32.ofBits 0x7f800000⟩] = .ok ts ∧
    ((standard ts .firstMinimum).start 1 1 0 []).result = .ok s ∧ s.status = .inProgress ∧
    cause? ((standard ts .firstMinimum).step s).result = some (.weights .infiniteTotal) := by
  have heavy : (TileSet.ofTiles [⟨"lead", .uniform "a", Float32.ofBits 0x7f800000⟩]).toOption.map
      (fun ts => ((standard ts .firstMinimum).start 1 1 0 []).result.toOption.map
        fun s => (s.status, cause? ((standard ts .firstMinimum).step s).result)) =
      some (some (.inProgress, some (.weights .infiniteTotal))) := by
    decide +kernel
  obtain ⟨ts, hts, hrest⟩ := exists_of_toOption_map heavy
  obtain ⟨s, hs, hstep⟩ := exists_of_toOption_map hrest
  exact ⟨ts, s, hts, hs, congrArg Prod.fst hstep, congrArg Prod.snd hstep⟩

end Engine

end EdgeTiling
