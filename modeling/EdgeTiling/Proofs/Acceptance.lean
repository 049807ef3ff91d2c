import Mathlib.Data.List.Nodup
import Mathlib.Order.Bounds.Defs
import EdgeTiling.Proofs.Compatibility

/-! Which lists of tiles make a tile set. The tiles are looked at one after the other. The first with
a bad weight, or with a name that has come before, is blamed; without such a tile every name leads
back to the one tile that has it. -/

namespace EdgeTiling

namespace Tile

def BadWeight (t : Tile) : Prop := t.weight.isNaN = true ∨ t.weight ≤ 0

instance (t : Tile) : Decidable t.BadWeight := inferInstanceAs (Decidable (_ ∨ _))

theorem hasBadWeight_iff {t : Tile} : t.hasBadWeight = true ↔ t.BadWeight := by
  simp [hasBadWeight, BadWeight]

end Tile

def FaultyAt (tiles : List Tile) (i : Nat) : Prop :=
  ∃ t, tiles[i]? = some t ∧ (t.BadWeight ∨ ∃ j < i, ∃ u, tiles[j]? = some u ∧ u.name = t.name)

/-- What is said of the tile at place `i` if it is to blame. The weight comes first. -/
def blame (i : Nat) (t : Tile) : TileSetError :=
  if t.BadWeight then .nonPositiveWeight i t.weight else .duplicateName t.name

section Faults

variable {index i : Nat} {seen : List String} {tiles good rest : List Tile} {t : Tile}

theorem firstFault_eq_none_iff : firstFault index seen tiles = none ↔
    (∀ t ∈ tiles, ¬ t.BadWeight ∧ t.name ∉ seen) ∧ (tiles.map (·.name)).Nodup := by
  fun_induction firstFault index seen tiles with
  | case1 => simp
  | case2 index seen t rest hweight => simp [Tile.hasBadWeight_iff.mp hweight]
  | case3 index seen t rest hweight hname => simp [hname]
  | case4 index seen t rest hweight hname ih =>
    rw [Tile.hasBadWeight_iff] at hweight
    rw [ih, List.forall_mem_cons, List.map_cons, List.nodup_cons, List.mem_map]
    constructor
    · rintro ⟨hrest, hnodup⟩
      refine ⟨⟨⟨hweight, hname⟩, fun u hu => ?_⟩, ?_, hnodup⟩
      · exact ⟨(hrest u hu).1, fun hseen => (hrest u hu).2 (List.mem_cons_of_mem _ hseen)⟩
      · rintro ⟨u, hu, heq⟩
        exact (hrest u hu).2 (heq ▸ List.mem_cons_self)
    · rintro ⟨⟨-, hrest⟩, hnew, hnodup⟩
      refine ⟨fun u hu => ⟨(hrest u hu).1, fun hseen => ?_⟩, hnodup⟩
      rcases List.mem_cons.mp hseen with heq | hseen
      · exact hnew ⟨u, hu, heq⟩
      · exact (hrest u hu).2 hseen

/-- A fault is that of a tile before which there is none. -/
theorem split_of_firstFault {e : TileSetError} (h : firstFault index seen tiles = some e) :
    ∃ good t rest, tiles = good ++ t :: rest ∧ firstFault index seen good = none ∧
      (t.BadWeight ∨ t.name ∈ seen ∨ t.name ∈ good.map (·.name)) ∧
      e = blame (index + good.length) t := by
  fun_induction firstFault index seen tiles with
  | case1 => contradiction
  | case2 index seen t rest hweight =>
    rw [Tile.hasBadWeight_iff] at hweight
    exact ⟨[], t, rest, rfl, rfl, .inl hweight, by simpa [blame, hweight] using h.symm⟩
  | case3 index seen t rest hweight hname =>
    rw [Tile.hasBadWeight_iff] at hweight
    exact ⟨[], t, rest, rfl, rfl, .inr (.inl hname), by simpa [blame, hweight] using h.symm⟩
  | case4 index seen first rest hweight hname ih =>
    obtain ⟨good, t, later, rfl, hgood, hfault, rfl⟩ := ih h
    refine ⟨first :: good, t, later, rfl, ?_, ?_, ?_⟩
    · rw [firstFault, if_neg hweight, if_neg hname, hgood]
    · simpa [or_assoc, or_left_comm] using hfault
    · rw [List.length_cons, Nat.add_assoc, Nat.add_comm 1]

theorem faultyAt_length (h : t.BadWeight ∨ t.name ∈ good.map (·.name)) :
    FaultyAt (good ++ t :: rest) good.length := by
  refine ⟨t, by simp, h.imp_right fun hname => ?_⟩
  obtain ⟨u, hu, heq⟩ := List.mem_map.mp hname
  obtain ⟨j, hj, rfl⟩ := List.mem_iff_getElem.mp hu
  exact ⟨j, hj, _, by simp [List.getElem?_append_left hj, hj], heq⟩

theorem length_le_of_faultyAt (hgood : firstFault index seen good = none)
    (h : FaultyAt (good ++ rest) i) : good.length ≤ i := by
  by_contra hi
  obtain ⟨hall, hnodup⟩ := firstFault_eq_none_iff.mp hgood
  obtain ⟨t, ht, hfault⟩ := h
  rw [List.getElem?_append_left (by omega)] at ht
  rcases hfault with hweight | ⟨j, hj, u, hu, hname⟩
  · exact (hall t (List.mem_of_getElem? ht)).1 hweight
  · rw [List.getElem?_append_left (by omega)] at hu
    refine List.nodup_iff_getElem?_ne_getElem?.mp hnodup j i hj (by simpa using hi) ?_
    simp [ht, hu, hname]

end Faults

namespace TileSet

variable {tiles : List Tile} {ts : TileSet}

theorem ofTiles_eq_error {e : TileSetError} (hne : tiles ≠ []) (h : ofTiles tiles = .error e) :
    firstFault 0 [] tiles = some e := by
  unfold ofTiles at h
  split at h
  · contradiction
  · split at h
    · next hfault => rw [hfault, Except.error.inj h]
    · contradiction

theorem exists_ofTiles_iff : (∃ ts, ofTiles tiles = .ok ts) ↔
    tiles ≠ [] ∧ (∀ t ∈ tiles, ¬ t.BadWeight) ∧ (tiles.map (·.name)).Nodup := by
  have hnone : firstFault 0 [] tiles = none ↔
      (∀ t ∈ tiles, ¬ t.BadWeight) ∧ (tiles.map (·.name)).Nodup := by
    simp [firstFault_eq_none_iff]
  rw [← hnone]
  constructor
  · rintro ⟨ts, h⟩
    rw [← ofTiles_eq_ok h]
    exact ⟨ts.nonempty, ts.faultless⟩
  · rintro ⟨hne, hf⟩
    exact exists_ofTiles hne hf

theorem nodup_names (ts : TileSet) : (ts.tiles.toList.map (·.name)).Nodup :=
  (firstFault_eq_none_iff.mp ts.faultless).2

theorem idByName?_name {i : TileId} {t : Tile} (h : ts.get? i = some t) :
    ts.idByName? t.name = some i := by
  obtain ⟨hi, rfl⟩ := Array.getElem?_eq_some_iff.mp h
  refine Array.findIdx?_eq_some_iff_getElem.mpr ⟨hi, by simp, fun j hj hname => ?_⟩
  refine List.nodup_iff_getElem?_ne_getElem?.mp ts.nodup_names j i hj (by simpa using hi) ?_
  have hlt : j < ts.tiles.size := by omega
  simpa [hi, hlt] using hname

theorem idByName?_eq_none_iff {name : String} :
    ts.idByName? name = none ↔ name ∉ ts.tiles.toList.map (·.name) := by
  simp [idByName?, Array.findIdx?_eq_none_iff]

/-- A list of tiles is accepted exactly if it is not empty, no weight is bad and no name comes
twice. Of a list that has tiles and is not accepted, the first faulty one is blamed. In an accepted
list the name of each tile leads to its place, and any other name to none. -/
theorem accepted_or_blamed (tiles : List Tile) :
    ((∃ ts, ofTiles tiles = .ok ts) ↔
      tiles ≠ [] ∧ (∀ t ∈ tiles, ¬ t.BadWeight) ∧ (tiles.map (·.name)).Nodup) ∧
    (tiles ≠ [] → (¬ ∃ ts, ofTiles tiles = .ok ts) → ∃ i t, tiles[i]? = some t ∧
      IsLeast {j | FaultyAt tiles j} i ∧ ofTiles tiles = .error (blame i t)) ∧
    ∀ ts, ofTiles tiles = .ok ts →
      (∀ i t, tiles[i]? = some t → ts.idByName? t.name = some i) ∧
      ∀ name, name ∉ tiles.map (·.name) → ts.idByName? name = none := by
  refine ⟨exists_ofTiles_iff, fun hne hrefused => ?_, fun ts h =>
    ⟨fun i t ht => ?_, fun name hname => ?_⟩⟩
  · cases h : ofTiles tiles with
    | ok ts => exact absurd ⟨ts, h⟩ hrefused
    | error e =>
      obtain ⟨good, t, rest, rfl, hgood, hfault, rfl⟩ :=
        split_of_firstFault (ofTiles_eq_error hne h)
      have hleast : IsLeast {j | FaultyAt (good ++ t :: rest) j} good.length :=
        ⟨faultyAt_length (by simpa using hfault), fun j hj => length_le_of_faultyAt hgood hj⟩
      exact ⟨good.length, t, by simp, hleast, by rw [Nat.zero_add]⟩
  · exact idByName?_name (by rw [get?, ← Array.getElem?_toList, ofTiles_eq_ok h, ht])
  · rwa [idByName?_eq_none_iff, ofTiles_eq_ok h]

/-- A name that comes again before a weight of zero. -/
def twinTiles : List Tile :=
  pathTiles ++ [⟨"rise", .uniform "path", 0.5⟩, ⟨"pond", .uniform "path", 0⟩]

/-- The second of the twins is blamed, the tile without weight is not reached. Without the two the
list is accepted. -/
theorem accepted_or_blamed_twins : twinTiles ≠ [] ∧ (¬ ∃ ts, ofTiles twinTiles = .ok ts) ∧
    IsLeast {j | FaultyAt twinTiles j} 3 ∧
    ofTiles twinTiles = .error (.duplicateName "rise") ∧
    ∃ ts, ofTiles pathTiles = .ok ts ∧ ts.idByName? "meadow" = some 2 ∧
      ts.idByName? "pond" = none := by
  have hne : twinTiles ≠ [] := by simp [twinTiles]
  have hrefused : ¬ ∃ ts, ofTiles twinTiles = .ok ts := by
    rw [(accepted_or_blamed twinTiles).1]
    decide
  obtain ⟨i, t, ht, hleast, hblame⟩ := (accepted_or_blamed twinTiles).2.1 hne hrefused
  have hpaths : firstFault 0 [] pathTiles = none := by decide +kernel
  obtain rfl : i = 3 := by
    apply Nat.le_antisymm
    · exact hleast.2 ⟨_, rfl, .inr ⟨0, by decide, _, rfl, rfl⟩⟩
    · exact length_le_of_faultyAt hpaths hleast.1
  obtain rfl := Option.some.inj ht
  obtain ⟨ts, h⟩ := (accepted_or_blamed pathTiles).1.mpr (by decide +kernel)
  obtain ⟨hplace, hno⟩ := (accepted_or_blamed pathTiles).2.2 ts h
  exact ⟨hne, hrefused, hleast, hblame, ts, h, hplace 2 _ rfl, hno "pond" (by decide)⟩

end TileSet

end EdgeTiling
