import EdgeTiling.Proofs.Numbering

/-! What candidate sets contain, and that two tiles fit exactly when the labels of their facing
edges are the same text. -/

namespace EdgeTiling

namespace Domain

theorem lt_width_of_has {D : Domain} {t : TileId} (h : D.has t = true) : t < D.width := by
  by_contra hn
  have hle : D.flags.length ≤ t := by simpa [width] using hn
  simp [has, List.getD, List.getElem?_eq_none hle] at h

theorem has_ofPred {n : Nat} {p : TileId → Bool} {t : TileId} :
    (ofPred n p).has t = true ↔ t < n ∧ p t = true := by
  by_cases ht : t < n
  · simp [has, ofPred, List.getD, ht]
  · simp [has, ofPred, List.getD, ht]

theorem has_full {n : Nat} {t : TileId} : (full n).has t = true ↔ t < n := by
  by_cases ht : t < n
  · simp [has, full, List.getD, ht]
  · simp [has, full, List.getD, ht]

theorem has_only {n : Nat} {t u : TileId} : (only n t).has u = true ↔ u < n ∧ u = t := by
  simp [only, has_ofPred]

theorem mem_tiles {D : Domain} {t : TileId} : t ∈ D.tiles ↔ D.has t = true := by
  simp only [tiles, List.mem_filter, List.mem_range]
  exact ⟨And.right, fun h => ⟨lt_width_of_has h, h⟩⟩

theorem size_pos_iff {D : Domain} : 0 < D.size ↔ ∃ t, D.has t = true := by
  simp only [size, List.count_pos_iff]
  constructor
  · intro h
    obtain ⟨t, ht⟩ := List.mem_iff_getElem?.mp h
    exact ⟨t, by simp [has, List.getD, ht]⟩
  · rintro ⟨t, ht⟩
    have hlt : t < D.flags.length := lt_width_of_has ht
    have hget : D.flags[t] = true := by simpa [has, List.getD, hlt] using ht
    exact hget ▸ List.getElem_mem hlt

theorem eq_of_has {D E : Domain} (hw : D.width = E.width)
    (h : ∀ t, D.has t = true ↔ E.has t = true) : D = E := by
  apply Domain.ext
  apply List.ext_getElem hw
  intro t htD htE
  have ht := Bool.eq_iff_iff.mpr (h t)
  simpa [has, List.getD, htD, htE] using ht

theorem has_empty (n : Nat) (t : TileId) : (empty n).has t = false := by
  by_cases ht : t < n <;> simp [has, empty, List.getD, ht]

theorem width_union {D E : Domain} (h : D.width = E.width) : (D.union E).width = D.width := by
  simp only [width] at h
  simp [union, width, h]

theorem has_union {D E : Domain} (h : D.width = E.width) {t : TileId} :
    (D.union E).has t = true ↔ D.has t = true ∨ E.has t = true := by
  simp only [width] at h
  simp only [has, union, List.getD, List.getElem?_zipWith]
  by_cases ht : t < E.flags.length
  · simp [ht, h]
  · simp [ht, h]

theorem width_foldl_union {n : Nat} {D : Domain} {sets : List Domain} (hD : D.width = n)
    (hsets : ∀ E ∈ sets, E.width = n) : (sets.foldl union D).width = n := by
  induction sets generalizing D with
  | nil => exact hD
  | cons E rest ih =>
    have hE := hsets E List.mem_cons_self
    exact ih ((width_union (hD.trans hE.symm)).trans hD)
      fun F hF => hsets F (List.mem_cons_of_mem E hF)

theorem has_foldl_union {n : Nat} {D : Domain} {sets : List Domain} (hD : D.width = n)
    (hsets : ∀ E ∈ sets, E.width = n) {t : TileId} :
    (sets.foldl union D).has t = true ↔ D.has t = true ∨ ∃ E ∈ sets, E.has t = true := by
  induction sets generalizing D with
  | nil => simp
  | cons E rest ih =>
    have hE := hD.trans (hsets E List.mem_cons_self).symm
    rw [List.foldl_cons, ih ((width_union hE).trans hD)
      fun F hF => hsets F (List.mem_cons_of_mem E hF), has_union hE]
    simp [or_assoc]

end Domain

namespace TileSet

theorem size_pos (ts : TileSet) : 0 < ts.size :=
  List.length_pos_iff.mpr ts.nonempty

theorem lt_size_iff {ts : TileSet} {t : TileId} : t < ts.size ↔ ∃ tile, ts.get? t = some tile := by
  simp only [size, get?, Array.getElem?_eq_some_iff]
  exact ⟨fun h => ⟨_, h, rfl⟩, fun ⟨_, h, _⟩ => h⟩

theorem ofTiles_eq_ok {tiles : List Tile} {ts : TileSet} (h : ofTiles tiles = .ok ts) :
    ts.tiles.toList = tiles := by
  unfold ofTiles at h
  split at h
  · contradiction
  · split at h
    · contradiction
    · obtain rfl := Except.ok.inj h
      rfl

theorem exists_ofTiles {tiles : List Tile} (hne : tiles ≠ [])
    (hf : firstFault 0 [] tiles = none) : ∃ ts, ofTiles tiles = .ok ts := by
  unfold ofTiles
  split
  · contradiction
  · split
    · next hfault => simp [hf] at hfault
    · exact ⟨_, rfl⟩

theorem edge_mem_labels {ts : TileSet} {t : TileId} {tile : Tile} (h : ts.get? t = some tile)
    (d : Direction) : tile.edge d ∈ ts.index.labels := by
  have hmem : tile ∈ ts.tiles.toList := by
    rw [Array.mem_toList_iff]
    exact Array.mem_of_getElem? h
  rw [ts.index_eq]
  exact EdgeIndex.mem_labels hmem d

theorem code?_eq (ts : TileSet) (t : TileId) (d : Direction) :
    ts.index.code? t d = (ts.get? t).map fun tile => ts.index.labels.idxOf (tile.edge d) := by
  have hcodes : ts.index.codes =
      ts.tiles.map fun tile => tile.edges.map fun l => ts.index.labels.idxOf l := by
    conv_lhs => rw [ts.index_eq]
    rw [ts.index_eq]
    apply Array.toList_inj.mp
    simp [EdgeIndex.codes_ofTiles]
  simp only [EdgeIndex.code?, hcodes, get?, Array.getElem?_map, Option.map_map]
  congr 1
  funext tile
  simp [Tile.edge]

theorem compatible_iff {ts : TileSet} {a b : TileId} {d : Direction} :
    ts.compatible a b d = true ↔ ∃ tileA tileB, ts.get? a = some tileA ∧ ts.get? b = some tileB ∧
      tileA.edge d = tileB.edge d.opposite := by
  simp only [compatible, code?_eq]
  cases ha : ts.get? a with
  | none => simp
  | some tileA =>
    cases hb : ts.get? b with
    | none => simp
    | some tileB => simp [List.idxOf_inj (edge_mem_labels ha d)]

theorem compatible_symm {ts : TileSet} {a b : TileId} {d : Direction}
    (h : ts.compatible a b d = true) : ts.compatible b a d.opposite = true := by
  obtain ⟨tileA, tileB, ha, hb, he⟩ := compatible_iff.mp h
  exact compatible_iff.mpr ⟨tileB, tileA, hb, ha, by rw [Direction.opposite_opposite, he]⟩

/-- The entry of a table for the number of a label: the tiles that carry the label on that side. -/
theorem carriers_eq {ts : TileSet} {label : Nat} (hl : label < ts.index.labels.length)
    (d : Direction) : (ts.index.carriers.get d)[label]? =
      some ⟨ts.tiles.toList.map fun tile => ts.index.labels.idxOf (tile.edge d) == label⟩ := by
  rw [ts.index_eq] at hl ⊢
  exact EdgeIndex.carriers_ofTiles hl

theorem has_flags {ts : TileSet} {p : Tile → Bool} {t : TileId} :
    (Domain.mk (ts.tiles.toList.map p)).has t = true ↔
      ∃ tile, ts.get? t = some tile ∧ p tile = true := by
  simp only [Domain.has, List.getD, List.getElem?_map, Array.getElem?_toList, get?]
  cases ts.tiles[t]? <;> simp

theorem mem_shown {ts : TileSet} {D : Domain} {d : Direction} {label : Nat} :
    label ∈ ts.shown D d ↔ ∃ a, D.has a = true ∧ ts.index.code? a d = some label := by
  simp [shown, List.mem_eraseDups, Domain.mem_tiles]

theorem lt_length_of_mem_shown {ts : TileSet} {D : Domain} {d : Direction} {label : Nat}
    (h : label ∈ ts.shown D d) : label < ts.index.labels.length := by
  obtain ⟨a, -, ha⟩ := mem_shown.mp h
  rw [code?_eq] at ha
  obtain ⟨tile, htile, rfl⟩ := Option.map_eq_some_iff.mp ha
  exact List.idxOf_lt_length_of_mem (edge_mem_labels htile d)

/-- The sets that are united into the supported tiles. -/
theorem filterMap_carriers (ts : TileSet) (D : Domain) (d : Direction) :
    ((ts.shown D d).filterMap fun label => (ts.index.carriers.get d.opposite)[label]?) =
      (ts.shown D d).map fun label =>
        ⟨ts.tiles.toList.map fun tile => ts.index.labels.idxOf (tile.edge d.opposite) == label⟩ := by
  rw [← List.filterMap_eq_map]
  apply List.filterMap_congr
  intro label hl
  exact carriers_eq (lt_length_of_mem_shown hl) d.opposite

@[simp] theorem width_supported (ts : TileSet) (D : Domain) (d : Direction) :
    (ts.supported D d).width = ts.size := by
  rw [supported, filterMap_carriers]
  apply Domain.width_foldl_union
  · simp
  · simp [Domain.width, size]

theorem has_supported {ts : TileSet} {D : Domain} {d : Direction} {b : TileId} :
    (ts.supported D d).has b = true ↔ ∃ a, D.has a = true ∧ ts.compatible a b d = true := by
  have hunion : (ts.supported D d).has b = true ↔
      ∃ label ∈ ts.shown D d, ts.index.code? b d.opposite = some label := by
    rw [supported, filterMap_carriers, Domain.has_foldl_union (Domain.width_empty _)
      (by simp [Domain.width, size]), code?_eq, Domain.has_empty]
    simp only [List.mem_map, exists_exists_and_eq_and, has_flags, beq_iff_eq,
      Option.map_eq_some_iff, Bool.false_eq_true, false_or]
  rw [hunion]
  constructor
  · rintro ⟨label, hl, hb⟩
    obtain ⟨a, ha, hx⟩ := mem_shown.mp hl
    exact ⟨a, ha, by simp [compatible, hx, hb]⟩
  · rintro ⟨a, ha, hc⟩
    unfold compatible at hc
    split at hc
    · next x y hx hy => exact ⟨y, mem_shown.mpr ⟨a, ha, by rw [hx, eq_of_beq hc]⟩, hy⟩
    · contradiction

theorem mask_eq_ok {ts : TileSet} {ids : List TileId} {D : Domain} (h : ts.mask ids = .ok D) :
    D.width = ts.size ∧ ∀ t, D.has t = true ↔ t ∈ ids := by
  unfold mask at h
  split at h
  · contradiction
  · next hfind =>
    obtain rfl := Except.ok.inj h
    refine ⟨by simp, fun t => ?_⟩
    simp only [Domain.has_ofPred, List.contains_iff_mem, and_iff_right_iff_imp]
    intro ht
    simpa using List.find?_eq_none.mp hfind t ht

theorem mask_eq_error {ts : TileSet} {ids : List TileId} {e : TileSetError}
    (h : ts.mask ids = .error e) : ∃ t ∈ ids, ts.size ≤ t := by
  unfold mask at h
  split at h
  · next t hfind => exact ⟨t, List.mem_of_find?_eq_some hfind, by simpa using List.find?_some hfind⟩
  · contradiction

/-- Numbers and tables answer as the labels would. Ids fit exactly if they are those of two tiles
whose facing edges carry the same text. The supported tiles have one flag for each tile, however many
flags the candidates have, and it is set exactly if one of the candidates fits the tile. -/
theorem index_agrees_with_labels {tiles : List Tile} {ts : TileSet} (h : ofTiles tiles = .ok ts) :
    (∀ a b d, ts.compatible a b d = true ↔ ∃ (_ : a < tiles.length) (_ : b < tiles.length),
      tiles[a].edge d = tiles[b].edge d.opposite) ∧
    ∀ D d, (ts.supported D d).width = tiles.length ∧ ∀ b, (ts.supported D d).has b = true ↔
      ∃ a < tiles.length, D.has a = true ∧ ts.compatible a b d = true := by
  have htiles := ofTiles_eq_ok h
  have hget : ∀ t tile, ts.get? t = some tile ↔ ∃ _ : t < tiles.length, tiles[t] = tile := by
    intro t tile
    rw [get?, ← Array.getElem?_toList, htiles, List.getElem?_eq_some_iff]
  refine ⟨fun a b d => ?_, fun D d => ⟨?_, fun b => ?_⟩⟩
  · rw [compatible_iff]
    constructor
    · rintro ⟨tileA, tileB, ha, hb, hedge⟩
      obtain ⟨hlta, rfl⟩ := (hget a tileA).mp ha
      obtain ⟨hltb, rfl⟩ := (hget b tileB).mp hb
      exact ⟨hlta, hltb, hedge⟩
    · rintro ⟨hlta, hltb, hedge⟩
      exact ⟨_, _, (hget a _).mpr ⟨hlta, rfl⟩, (hget b _).mpr ⟨hltb, rfl⟩, hedge⟩
  · rw [width_supported, size, ← htiles, Array.length_toList]
  · rw [has_supported]
    refine exists_congr fun a => ⟨fun ⟨ha, hfit⟩ => ?_, And.right⟩
    obtain ⟨tileA, -, htile, -⟩ := compatible_iff.mp hfit
    exact ⟨((hget a tileA).mp htile).1, ha, hfit⟩

/-- Paths that turn, and grass: labels that come back on other sides. -/
def pathTiles : List Tile :=
  [⟨"rise", ⟨"grass", "path", "grass", "path"⟩, 1⟩, ⟨"fall", ⟨"path", "grass", "path", "grass"⟩, 1⟩,
    ⟨"meadow", .uniform "grass", 1⟩]

/-- Candidates with flags for two tiles too many. -/
theorem index_agrees_with_labels_paths : ∃ ts, ofTiles pathTiles = .ok ts ∧
    ts.compatible 0 1 .right = true ∧ ts.compatible 0 2 .right = false ∧
    ts.compatible 3 0 .left = false ∧
    (ts.supported ⟨[true, false, false, true, true]⟩ .right).width = 3 ∧
    ∀ b, (ts.supported ⟨[true, false, false, true, true]⟩ .right).has b = true ↔ b = 1 := by
  obtain ⟨ts, h⟩ : ∃ ts, ofTiles pathTiles = .ok ts :=
    exists_ofTiles (by simp [pathTiles]) (by decide +kernel)
  obtain ⟨hfit, hsupported⟩ := index_agrees_with_labels h
  obtain ⟨hwidth, hhas⟩ := hsupported ⟨[true, false, false, true, true]⟩ .right
  refine ⟨ts, h, (hfit 0 1 .right).mpr (by decide), ?_, ?_, hwidth, fun b => ?_⟩
  · exact Bool.eq_false_iff.mpr (mt (hfit 0 2 .right).mp (by decide))
  · exact Bool.eq_false_iff.mpr (mt (hfit 3 0 .left).mp (by decide))
  · rw [hhas]
    constructor
    · rintro ⟨a, ha, hD, hc⟩
      obtain ⟨_, hb, hedge⟩ := (hfit a b .right).mp hc
      have hall : ∀ a < 3, ∀ b < 3, (Domain.mk [true, false, false, true, true]).has a = true →
          (pathTiles.map (·.edge .right))[a]? = (pathTiles.map (·.edge .left))[b]? → b = 1 := by
        decide
      exact hall a ha b hb hD (by simpa [ha, hb, Direction.opposite] using hedge)
    · rintro rfl
      exact ⟨0, by decide, by decide, (hfit 0 1 .right).mpr (by decide)⟩

end TileSet

end EdgeTiling
