import Mathlib.Order.Bounds.Defs
import EdgeTiling.Export
import EdgeTiling.Proofs.Reading
import EdgeTiling.Proofs.Views

/-! Reading a saved table back. Line breaks divide the rows and blanks the ids, and neither occurs in
the digits of a number, so the text of a decided table gives the rows again. A table with an
undecided cell has no text, and the first such cell is named. -/

namespace EdgeTiling

theorem mapM_map_of_forall {α β : Type} {f : β → Option α} {g : α → β} {l : List α}
    (h : ∀ a ∈ l, f (g a) = some a) : (l.map g).mapM f = some l := by
  induction l with
  | nil => rfl
  | cons a rest ih =>
    obtain ⟨ha, hrest⟩ := List.forall_mem_cons.mp h
    simp [ha, ih hrest]

theorem SaveError.message_undecided (p : Position) : (undecided p).message =
    s!"Grid cell ({p.x}, {p.y}) is not resolved, cannot save." := by
  have hmessage : (undecided p).message = "Grid cell " ++ ("(" ++ toString p.x ++ ", " ++
      toString p.y ++ ")") ++ " is not resolved, cannot save." := rfl
  rw [hmessage, ← String.toList_inj]
  simp only [String.toList_append, List.append_assoc]
  rfl

namespace Text

/-- The lines of a text. A line break ends its line, so there is no line after the last one. -/
def lines (cs : List Char) : List (List Char) :=
  let parts := cs.splitOn '\n'
  if parts.getLast? = some [] then parts.dropLast else parts

theorem splitOn_ended {c : Char} {parts : List (List Char)} (h : ∀ part ∈ parts, c ∉ part) :
    (parts.map (· ++ [c])).flatten.splitOn c = parts ++ [[]] := by
  induction parts with
  | nil => simp
  | cons part rest ih =>
    obtain ⟨hpart, hrest⟩ := List.forall_mem_cons.mp h
    rw [List.map_cons, List.flatten_cons, List.append_assoc, List.singleton_append,
      List.splitOn_append_cons_self_of_not_mem hpart, ih hrest, List.cons_append]

theorem lines_ended {parts : List (List Char)} (h : ∀ part ∈ parts, '\n' ∉ part) :
    lines (parts.map (· ++ ['\n'])).flatten = parts := by
  simp [lines, splitOn_ended h]

theorem ofDigits_toDigits (n : Nat) : ofDigits 10 (Nat.toDigits 10 n) = n := by
  induction n using Nat.strongRecOn with
  | ind n ih =>
    rw [Nat.toDigits_eq_if (by omega)]
    split
    · next h => simp [ofDigits, Json.digitValue?_digitChar h]
    · have hdiv := ih (n / 10) (by omega)
      rw [ofDigits] at hdiv ⊢
      rw [List.foldl_append, hdiv]
      simp [Json.digitValue?_digitChar (Nat.mod_lt n (by omega)), Nat.div_add_mod']

theorem digits?_toDigits (n : Nat) : digits? (Nat.toDigits 10 n) = some n := by
  have hdigits : ∀ c ∈ Nat.toDigits 10 n, c.isDigit = true :=
    fun c hc => Nat.isDigit_of_mem_toDigits (by omega) (by omega) hc
  rw [digits?, if_pos ⟨Nat.toDigits_ne_nil, List.all_eq_true.mpr hdigits⟩, ofDigits_toDigits]

theorem notMem_toDigits {c : Char} (hc : c.isDigit = false) (n : Nat) : c ∉ Nat.toDigits 10 n := by
  intro h
  simp [Nat.isDigit_of_mem_toDigits (by omega) (by omega) h] at hc

end Text

namespace Snapshot

def readLine (line : List Char) : Option (List TileId) := (line.splitOn ' ').mapM Text.digits?

def readText (text : String) : Option (List (List TileId)) := (Text.lines text.toList).mapM readLine

def lineChars (row : List TileId) : List Char := [' '].intercalate (row.map (Nat.toDigits 10))

theorem toList_line (row : List TileId) : (line row).toList = lineChars row ++ ['\n'] := by
  simp [line, lineChars, String.toList_intercalate, Function.comp_def]

theorem readLine_lineChars {row : List TileId} (h : row ≠ []) :
    readLine (lineChars row) = some row := by
  have hblank : ∀ digits ∈ row.map (Nat.toDigits 10), ' ' ∉ digits := by
    simp only [List.forall_mem_map]
    exact fun t _ => Text.notMem_toDigits rfl t
  rw [readLine, lineChars, List.splitOn_intercalate ' ' hblank (by simpa using h)]
  exact mapM_map_of_forall fun t _ => Text.digits?_toDigits t

theorem notMem_lineChars (row : List TileId) : '\n' ∉ lineChars row := by
  have hdigits : ∀ t, '\n' ∉ Nat.toDigits 10 t := Text.notMem_toDigits rfl
  induction row with
  | nil => simp [lineChars]
  | cons t rest ih =>
    cases rest with
    | nil => simpa [lineChars] using hdigits t
    | cons u rest =>
      have hcons : lineChars (t :: u :: rest) =
          Nat.toDigits 10 t ++ [' '] ++ lineChars (u :: rest) :=
        List.intercalate_cons_cons
      simp [hcons, hdigits, ih]

theorem readText_join {rows : List (List TileId)} (h : ∀ row ∈ rows, row ≠ []) :
    readText (String.join (rows.map line)) = some rows := by
  have hchars : (String.join (rows.map line)).toList =
      ((rows.map lineChars).map (· ++ ['\n'])).flatten := by
    simp [String.toList_join, toList_line, Function.comp_def, List.flatMap]
  rw [readText, hchars, Text.lines_ended]
  · exact mapM_map_of_forall fun row hrow => readLine_lineChars (h row hrow)
  · simp only [List.forall_mem_map]
    exact fun row _ => notMem_lineChars row

end Snapshot

section Pieces

variable {α β : Type} {n : Nat}

theorem pieces_map (n : Nat) (f : α → β) (l : List α) :
    pieces n (l.map f) = (pieces n l).map (·.map f) := by
  fun_induction pieces n l with
  | case1 l h => rw [pieces, dif_pos (by simpa using h), List.map_nil]
  | case2 l h ih =>
    rw [pieces, dif_neg (by simpa using h), List.map_cons, ← List.map_take, ← List.map_drop, ih]

theorem ne_nil_of_mem_pieces {l piece : List α} (h : piece ∈ pieces n l) : piece ≠ [] := by
  fun_induction pieces n l with
  | case1 l _ => contradiction
  | case2 l hne ih =>
    rcases List.mem_cons.mp h with rfl | hrest
    · rw [not_or] at hne
      simpa [List.take_eq_nil_iff] using hne
    · exact ih hrest

end Pieces

namespace Snapshot

theorem rowIds_of_none (x : Nat) (ids : List TileId) (rest : List (Option TileId)) :
    rowIds x (ids.map some ++ none :: rest) = .error (x + ids.length) := by
  induction ids generalizing x with
  | nil => rfl
  | cons t ids ih =>
    rw [List.map_cons, List.cons_append, rowIds, ih, List.length_cons, Nat.add_assoc,
      Nat.add_comm 1]
    rfl

/-- The first undecided cell is named by its row and its place there, which its place in the list of
all cells determines. -/
theorem rowsText_of_none {n : Nat} (hn : 0 < n) (y : Nat) (ids : List TileId)
    (rest : List (Option TileId)) :
    rowsText y (pieces n (ids.map some ++ none :: rest)) =
      .error ⟨ids.length % n, y + ids.length / n⟩ := by
  induction hk : ids.length using Nat.strongRecOn generalizing y ids with
  | ind k ih =>
    subst hk
    rw [pieces_of_ne_nil hn (by simp), rowsText]
    by_cases hlt : ids.length < n
    · -- the cell is in the first row
      obtain ⟨m, hm⟩ : ∃ m, n - ids.length = m + 1 := ⟨n - ids.length - 1, by omega⟩
      have hids : (ids.map some).length ≤ n := by simpa using Nat.le_of_lt hlt
      rw [List.take_append, List.take_of_length_le hids, List.length_map, hm, List.take_succ_cons,
        rowIds_of_none]
      simp [Nat.mod_eq_of_lt hlt, Nat.div_eq_of_lt hlt]
    · -- the first row is decided
      have hlen : n ≤ (ids.map some).length := by simpa using hlt
      have hlater := ih (ids.drop n).length (by simp; omega) (y + 1) (ids.drop n) rfl
      rw [List.take_append_of_le_length hlen, List.drop_append_of_le_length hlen, ← List.map_take,
        ← List.map_drop, rowIds_map_some, hlater, List.length_drop]
      have hdiv := Nat.div_eq_sub_div hn (by simpa using hlen)
      have hmod := Nat.mod_eq_sub_mod (by simpa using hlen)
      rw [hmod, hdiv, Nat.add_assoc, Nat.add_comm 1]
      rfl

theorem exists_map_some {cells : List (Option TileId)} (h : none ∉ cells) :
    ∃ ids : List TileId, cells = ids.map some := by
  induction cells with
  | nil => exact ⟨[], rfl⟩
  | cons cell rest ih =>
    obtain ⟨hcell, hrest⟩ := not_or.mp (mt List.mem_cons.mpr h)
    obtain ⟨ids, rfl⟩ := ih hrest
    obtain ⟨t, rfl⟩ := Option.ne_none_iff_exists'.mp (Ne.symm hcell)
    exact ⟨t :: ids, rfl⟩

theorem isLeast_length (ids : List TileId) (rest : List (Option TileId)) :
    IsLeast {i | (ids.map some ++ none :: rest)[i]? = some none} ids.length := by
  refine ⟨?_, fun i (hi : (ids.map some ++ none :: rest)[i]? = some none) => ?_⟩
  · change (ids.map some ++ none :: rest)[ids.length]? = some none
    simp
  · by_contra hlt
    rw [List.getElem?_append_left (by simpa using hlt)] at hi
    simp at hi

section Texts

variable {s s' : Snapshot} {text : String}

theorem text_cases (hw : 0 < s.width) :
    (∃ ids, s.cells = ids.map some ∧
      s.text = .ok (String.join ((pieces s.width ids).map line))) ∨
    ∃ (ids : List TileId) (rest : List (Option TileId)), s.cells = ids.map some ++ none :: rest ∧
      s.text = .error ⟨ids.length % s.width, ids.length / s.width⟩ := by
  by_cases hnone : none ∈ s.cells
  · obtain ⟨decided, rest, hcells, hdecided⟩ := List.eq_append_cons_of_mem hnone
    obtain ⟨ids, rfl⟩ := exists_map_some hdecided
    refine .inr ⟨ids, rest, hcells, ?_⟩
    rw [Snapshot.text, rows, hcells, rowsText_of_none hw, Nat.zero_add]
  · obtain ⟨ids, hcells⟩ := exists_map_some hnone
    refine .inl ⟨ids, hcells, ?_⟩
    rw [Snapshot.text, rows, hcells, pieces_map, rowsText_map_some]

theorem readText_of_text (hw : 0 < s.width) (h : s.text = .ok text) :
    ∃ ids, readText text = some ids ∧ ids.map (·.map some) = s.rows := by
  rcases text_cases hw with ⟨ids, hcells, htext⟩ | ⟨ids, rest, -, htext⟩
  · obtain rfl := Except.ok.inj (htext.symm.trans h)
    refine ⟨pieces s.width ids, readText_join fun row => ne_nil_of_mem_pieces, ?_⟩
    rw [rows, hcells, pieces_map]
  · rw [htext] at h
    contradiction

theorem cells_eq_of_text (hw : 0 < s.width) (hw' : 0 < s'.width) (h : s.text = .ok text)
    (h' : s'.text = .ok text) : s.cells = s'.cells := by
  obtain ⟨ids, hread, hrows⟩ := readText_of_text hw h
  obtain ⟨ids', hread', hrows'⟩ := readText_of_text hw' h'
  obtain rfl := Option.some.inj (hread.symm.trans hread')
  calc s.cells = s.rows.flatten := (flatten_pieces hw s.cells).symm
    _ = s'.rows.flatten := by rw [← hrows, hrows']
    _ = s'.cells := flatten_pieces hw' s'.cells

/-- A table with a width fails to have a text exactly if a cell is undecided. Then the first such cell
is named, with its place in its row and the number of the row. Otherwise the text, divided into lines
and the lines at blanks, gives the ids of the rows again, so decided tables of one width that differ
in a cell have different texts. -/
theorem text_reads_back (hw : 0 < s.width) :
    ((∃ p, s.text = .error p) ↔ none ∈ s.cells) ∧
    (∀ p, s.text = .error p → ∃ i, IsLeast {i | s.cells[i]? = some none} i ∧
      p = ⟨i % s.width, i / s.width⟩ ∧ (SaveError.undecided p).message =
        s!"Grid cell ({i % s.width}, {i / s.width}) is not resolved, cannot save.") ∧
    (∀ text, s.text = .ok text →
      ∃ ids, readText text = some ids ∧ ids.map (·.map some) = s.rows) ∧
    ∀ s' : Snapshot, s'.width = s.width → none ∉ s.cells → none ∉ s'.cells → s.cells ≠ s'.cells →
      s.text ≠ s'.text := by
  refine ⟨?_, fun p hp => ?_, fun text h => readText_of_text hw h, fun s' hwidth hs _ hne heq => ?_⟩
  · rcases text_cases hw with ⟨ids, hcells, htext⟩ | ⟨ids, rest, hcells, htext⟩
    · simp [hcells, htext]
    · simp [hcells, htext]
  · rcases text_cases hw with ⟨ids, -, htext⟩ | ⟨ids, rest, hcells, htext⟩
    · rw [htext] at hp
      contradiction
    · obtain rfl := Except.error.inj (htext.symm.trans hp)
      exact ⟨ids.length, hcells ▸ isLeast_length ids rest, rfl, SaveError.message_undecided _⟩
  · rcases text_cases hw with ⟨ids, -, htext⟩ | ⟨ids, rest, hcells, -⟩
    · exact hne (cells_eq_of_text hw (hwidth ▸ hw) htext (heq ▸ htext))
    · simp [hcells] at hs

end Texts

/-- A table whose last row is shorter than the first, and its height another than it says. -/
def ragged : Snapshot := ⟨2, 9, [some 3, some (wordLimit - 1), some 0]⟩

/-- Its text is read as its rows; with an undecided cell at the end there would be no text. -/
theorem text_reads_back_ragged : 0 < ragged.width ∧
    ragged.text = .ok "3 18446744073709551615\n0\n" ∧
    (∃ ids, readText "3 18446744073709551615\n0\n" = some ids ∧
      ids.map (·.map some) = [[some 3, some (wordLimit - 1)], [some 0]]) ∧
    ∃ p, ({ ragged with cells := ragged.cells ++ [none] } : Snapshot).text = .error p := by
  have hw : 0 < ragged.width := by decide
  have hrows : ragged.rows = [[some 3, some (wordLimit - 1)], [some 0]] := by
    simp [rows, ragged, pieces]
  have htext : ragged.text = .ok "3 18446744073709551615\n0\n" := by
    rw [Snapshot.text, hrows]
    decide +kernel
  refine ⟨hw, htext, hrows ▸ (text_reads_back hw).2.2.1 _ htext, ?_⟩
  exact (text_reads_back (s := { ragged with cells := ragged.cells ++ [none] }) hw).1.mpr (by simp)

end Snapshot

end EdgeTiling
