import EdgeTiling.Scheduler
import EdgeTiling.Proofs.Cells

/-! The cells with the fewest candidates: one pass over the open cells, which starts its list anew
whenever a cell has fewer candidates than all before it, ends with exactly these. They are open cells,
and there are some as long as a cell is open. So a rule that chooses among them never overlooks one. -/

namespace EdgeTiling

namespace Lowest

variable {l : Lowest} {cells : List (Position × Nat)} {x : Position × Nat}

theorem meet_of_lt (h : ∀ n, l.fewest = some n → x.2 < n) : l.meet x = ⟨some x.2, #[x.1]⟩ := by
  cases hf : l.fewest with
  | none => simp [meet, hf]
  | some n => simp [meet, hf, h n hf]

theorem meet_of_eq (h : l.fewest = some x.2) :
    l.meet x = { l with cells := l.cells.push x.1 } := by
  simp [meet, h]

theorem meet_of_gt {n : Nat} (h : l.fewest = some n) (hlt : n < x.2) : l.meet x = l := by
  have hnot : ¬ x.2 < n := by omega
  have hne : n ≠ x.2 := by omega
  simp [meet, h, hnot, hne]

structure Summarizes (l : Lowest) (cells : List (Position × Nat)) : Prop where
  fewest : l.fewest = (cells.map (·.2)).min?
  held : l.cells.toList = (cells.filter fun x => l.fewest = some x.2).map (·.1)

theorem summarizes_empty : empty.Summarizes [] := ⟨rfl, rfl⟩

theorem min?_concat {ns : List Nat} {m : Nat} (h : ns.min? = some m) (n : Nat) :
    (ns ++ [n]).min? = some (min m n) := by
  cases ns with
  | nil => contradiction
  | cons k ns =>
    rw [List.min?_cons', Option.some.injEq] at h
    rw [List.cons_append, List.min?_cons', List.foldl_append, h]
    rfl

theorem Summarizes.meet (h : l.Summarizes cells) (x : Position × Nat) :
    (l.meet x).Summarizes (cells ++ [x]) := by
  have hmin := h.fewest
  cases hf : l.fewest with
  | none =>
    obtain rfl : cells = [] := by
      rw [hf] at hmin
      simpa using hmin.symm
    rw [meet_of_lt (by simp [hf])]
    constructor <;> simp
  | some m =>
    rw [hf] at hmin
    have hnext : ((cells ++ [x]).map (·.2)).min? = some (min m x.2) := by
      rw [List.map_append, List.map_singleton, min?_concat hmin.symm]
    rcases Nat.lt_trichotomy x.2 m with hlt | rfl | hgt
    · -- the new cell is below all others, so none of them is left
      have hdrop : cells.filter (fun y => some x.2 = some y.2) = [] := by
        rw [List.filter_eq_nil_iff]
        intro y hy
        have hle := (List.min?_eq_some_iff.mp hmin.symm).2 y.2 (List.mem_map_of_mem hy)
        simp only [Option.some.injEq, decide_eq_true_eq]
        omega
      rw [meet_of_lt (by simp [hf, hlt])]
      constructor
      · rw [hnext, Nat.min_eq_right (Nat.le_of_lt hlt)]
      · rw [List.filter_append, hdrop]
        simp
    · rw [meet_of_eq hf]
      constructor
      · rw [hnext, Nat.min_self, hf]
      · simp [hf, h.held]
    · rw [meet_of_gt hf hgt]
      constructor
      · rw [hnext, Nat.min_eq_left (Nat.le_of_lt hgt), hf]
      · simp [hf, h.held, Nat.ne_of_lt hgt]

theorem Summarizes.foldl (h : l.Summarizes cells) (rest : List (Position × Nat)) :
    (rest.foldl Lowest.meet l).Summarizes (cells ++ rest) := by
  induction rest generalizing l cells with
  | nil => simpa using h
  | cons x rest ih =>
    rw [List.foldl_cons, List.append_cons]
    exact ih (h.meet x)

end Lowest

namespace Grid

variable {g : Grid}

theorem lowestCells_eq (g : Grid) : g.lowestCells =
    (g.openCells.filter fun x => (g.openCells.map (·.2)).min? = some x.2).map (·.1) := by
  have h := Lowest.summarizes_empty.foldl g.openCells
  rw [List.nil_append] at h
  rw [lowestCells, h.held, h.fewest]

theorem mem_openCells {p : Position} {n : Nat} : (p, n) ∈ g.openCells ↔
    ∃ i c, g.cells[i]? = some c ∧ c.isOpen = true ∧ g.position i = p ∧ c.domain.size = n := by
  simp only [openCells, List.mem_filterMap, Prod.exists, List.mem_zipIdx_iff_getElem?,
    Array.getElem?_toList, Option.ite_none_right_eq_some, Option.some.injEq, Prod.mk.injEq]
  exact ⟨fun ⟨c, i, hc, h⟩ => ⟨i, c, hc, h⟩, fun ⟨i, c, hc, h⟩ => ⟨c, i, hc, h⟩⟩

theorem mem_lowestCells {p : Position} :
    p ∈ g.lowestCells ↔ ∃ n, (p, n) ∈ g.openCells ∧ ∀ x ∈ g.openCells, n ≤ x.2 := by
  simp only [lowestCells_eq, List.mem_map]
  constructor
  · rintro ⟨⟨q, n⟩, hx, rfl⟩
    obtain ⟨hmem, hmin⟩ := List.mem_filter.mp hx
    obtain ⟨-, hle⟩ := List.min?_eq_some_iff.mp (of_decide_eq_true hmin)
    exact ⟨n, hmem, fun y hy => hle _ (List.mem_map_of_mem hy)⟩
  · rintro ⟨n, hx, hle⟩
    have hmin : (g.openCells.map (·.2)).min? = some n := by
      refine List.min?_eq_some_iff.mpr ⟨List.mem_map.mpr ⟨(p, n), hx, rfl⟩, ?_⟩
      exact List.forall_mem_map.mpr hle
    exact ⟨(p, n), List.mem_filter.mpr ⟨hx, by simp [hmin]⟩, rfl⟩

theorem openCells_of_lowestCells_eq_nil (h : g.lowestCells = []) : g.openCells = [] := by
  cases hmin : (g.openCells.map (·.2)).min? with
  | none => simpa using hmin
  | some n =>
    obtain ⟨hmem, hle⟩ := List.min?_eq_some_iff.mp hmin
    obtain ⟨⟨p, m⟩, hx, rfl⟩ := List.mem_map.mp hmem
    have hp : p ∈ g.lowestCells :=
      mem_lowestCells.mpr ⟨m, hx, fun y hy => hle _ (List.mem_map_of_mem hy)⟩
    simp [h] at hp

theorem open_of_mem_lowestCells (hv : g.Valid) {p : Position} (h : p ∈ g.lowestCells) :
    g.Inside p ∧ g.isResolved p = false := by
  obtain ⟨n, hx, -⟩ := mem_lowestCells.mp h
  obtain ⟨i, c, hc, ho, rfl, -⟩ := mem_openCells.mp hx
  have hcell := hv.cell?_position hc
  exact ⟨inside_of_cell? hcell, (isResolved_of_cell? hcell).mpr ho⟩

theorem allResolved_of_openCells_eq_nil (h : g.openCells = []) : g.allResolved = true := by
  simp only [allResolved, Array.all_eq_true_iff_forall_mem]
  intro c hc
  obtain ⟨i, hi⟩ := Array.mem_iff_getElem?.mp hc
  by_contra hn
  have hx : (g.position i, c.domain.size) ∈ g.openCells :=
    mem_openCells.mpr ⟨i, c, hi, by simpa [Cell.isOpen] using hn, rfl, rfl⟩
  simp [h] at hx

end Grid

namespace Scheduler

structure Faithful {σ : Type} (scheduler : Scheduler σ) : Prop where
  allResolved : ∀ memory g s, g.Valid → (scheduler.select memory g s).1 = none →
    g.allResolved = true
  isOpen : ∀ memory g s p, g.Valid → (scheduler.select memory g s).1 = some p →
    g.Inside p ∧ g.isResolved p = false

theorem mem_of_select_fewest {how : Selection} {g : Grid} {s : Random.Stream} {p : Position}
    (h : ((fewest how).select () g s).1 = some p) : p ∈ g.lowestCells := by
  cases how with
  | firstMinimum => exact List.mem_of_mem_head? h
  | randomLowest =>
    simp only [fewest] at h
    split at h
    · contradiction
    · exact List.mem_of_getElem? h

theorem lowestCells_of_select_fewest {how : Selection} {g : Grid} {s : Random.Stream}
    (h : ((fewest how).select () g s).1 = none) : g.lowestCells = [] := by
  cases how with
  | firstMinimum => exact List.head?_eq_none_iff.mp h
  | randomLowest =>
    simp only [fewest] at h
    split at h
    · next he => simpa using he
    · next he =>
      have hpos : 0 < g.lowestCells.length := List.length_pos_iff.mpr (by simpa using he)
      have hlt := Random.Stream.below_lt hpos s
      have hle := List.getElem?_eq_none_iff.mp h
      omega

theorem faithful_fewest (how : Selection) : (fewest how).Faithful where
  allResolved _ _ _ _ h := Grid.allResolved_of_openCells_eq_nil
    (Grid.openCells_of_lowestCells_eq_nil (lowestCells_of_select_fewest h))
  isOpen _ _ _ _ hv h := Grid.open_of_mem_lowestCells hv (mem_of_select_fewest h)

end Scheduler

end EdgeTiling
