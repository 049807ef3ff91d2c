import Mathlib.Data.List.Basic
import EdgeTiling.Tile

/-! Numbers for labels, handed out while the labels come in. A label keeps its number whatever comes
later, so at the end every label has its place in the list of all of them for a number, and two labels
have the same number only if they are equal. -/

namespace EdgeTiling

namespace EdgeIndex

variable {α β : Type}

/-- `m` hands out numbers for `labels`. It only adds to the labels seen before, and in every list that
continues the one it leaves, `labels` occur and the result is `f` of their places. -/
structure Numbers (m : StateM (List String) α) (labels : List String) (f : (String → Nat) → α) :
    Prop where
  grows : ∀ seen, seen <+: (m seen).2
  lasting : ∀ seen all, (m seen).2 <+: all → (∀ l ∈ labels, l ∈ all) ∧ (m seen).1 = f all.idxOf

theorem Numbers.pure (a : α) : Numbers (pure a) [] fun _ => a where
  grows seen := List.prefix_rfl
  lasting seen all _ := ⟨by simp, rfl⟩

theorem Numbers.bind {m : StateM (List String) α} {k : α → StateM (List String) β}
    {labels labels' : List String} {f : (String → Nat) → α} {f' : α → (String → Nat) → β}
    (h : Numbers m labels f) (h' : ∀ a, Numbers (k a) labels' (f' a)) :
    Numbers (m >>= k) (labels ++ labels') fun place => f' (f place) place where
  grows seen := (h.grows seen).trans ((h' _).grows _)
  lasting seen all hall := by
    obtain ⟨hmem', hvalue'⟩ := (h' (m seen).1).lasting _ all hall
    -- what the first part left is continued by the second, and so by `all`
    obtain ⟨hmem, hvalue⟩ := h.lasting seen all (((h' _).grows _).trans hall)
    refine ⟨fun l hl => ?_, ?_⟩
    · rcases List.mem_append.mp hl with hl | hl
      · exact hmem l hl
      · exact hmem' l hl
    · rw [← hvalue]
      exact hvalue'

theorem numbers_number (label : String) : Numbers (number label) [label] fun place => place label where
  grows seen := by
    unfold number
    split
    · exact List.prefix_rfl
    · exact List.prefix_append seen [label]
  lasting seen all hall := by
    obtain ⟨later, rfl⟩ := hall
    unfold number
    split
    · next hold => exact ⟨by simp [hold], (List.idxOf_append_of_mem hold).symm⟩
    · next hnew => simp [List.idxOf_append_of_notMem hnew]

theorem numbers_numberSides (s : Sides String) :
    Numbers (numberSides s) s.toList fun place => s.map place :=
  (numbers_number s.up).bind fun _ => (numbers_number s.down).bind fun _ =>
    (numbers_number s.left).bind fun _ => (numbers_number s.right).bind fun _ => .pure _

theorem numbers_numberTiles (tiles : List Tile) :
    Numbers (numberTiles tiles) (tiles.flatMap fun t => t.edges.toList)
      fun place => tiles.map fun t => t.edges.map place := by
  induction tiles with
  | nil => exact .pure []
  | cons t rest ih =>
    have h := (numbers_numberSides t.edges).bind fun codes => ih.bind fun more =>
      Numbers.pure (codes :: more)
    simpa [numberTiles, List.mapM_cons] using h

section Tables

variable {tiles : List Tile} {t : Tile} {d : Direction} {label : Nat}

theorem mem_labels (ht : t ∈ tiles) (d : Direction) : t.edge d ∈ (ofTiles tiles).labels := by
  obtain ⟨hmem, -⟩ := (numbers_numberTiles tiles).lasting [] _ List.prefix_rfl
  exact hmem _ (List.mem_flatMap.mpr ⟨t, ht, t.edges.get_mem_toList d⟩)

theorem codes_ofTiles (tiles : List Tile) : (ofTiles tiles).codes.toList =
    tiles.map fun t => t.edges.map fun l => (ofTiles tiles).labels.idxOf l :=
  ((numbers_numberTiles tiles).lasting [] _ List.prefix_rfl).2

theorem carriers_ofTiles (hl : label < (ofTiles tiles).labels.length) :
    ((ofTiles tiles).carriers.get d)[label]? =
      some ⟨tiles.map fun t => (ofTiles tiles).labels.idxOf (t.edge d) == label⟩ := by
  have hcodes := codes_ofTiles tiles
  simp only [ofTiles, List.toList_toArray] at hcodes hl ⊢
  simp [carriersOn, hl, hcodes, Tile.edge, Function.comp_def]

end Tables

end EdgeIndex

end EdgeTiling
