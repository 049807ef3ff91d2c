import EdgeTiling.Proofs.Decoding
import EdgeTiling.Proofs.History

/-! Reading a table of comma-separated values back, and with it the trace of a solve. Quotes are written
around every field that has a comma, a quote or a line break in it, so a reader that goes through the
text character by character knows where a field ends, whatever names the tiles have. -/

namespace EdgeTiling

namespace Csv

inductive Phase
  /-- The end of a row. Line breaks in front of the next row do not count. -/
  | between
  /-- The comma in front of a field. -/
  | begins
  | plain
  | quoted
  /-- A quote inside quotes: the last one, or the first of two that stand for one. -/
  | quote
  deriving DecidableEq

structure Reading where
  rows : List (List String) := []
  fields : List String := []
  chars : List Char := []
  phase : Phase := .between

def isBreak (c : Char) : Bool := c == '\n' || c == '\r'

namespace Reading

def endField (r : Reading) : Reading :=
  { r with fields := r.fields ++ [String.ofList r.chars], chars := [], phase := .begins }

def endRow (r : Reading) : Reading := { rows := r.rows ++ [r.endField.fields] }

def outside (r : Reading) (c : Char) : Reading :=
  if c = ',' then r.endField
  else if isBreak c then r.endRow
  else { r with chars := r.chars ++ [c], phase := .plain }

def first (r : Reading) (c : Char) : Reading :=
  if c = '"' then { r with phase := .quoted } else r.outside c

def advance (r : Reading) (c : Char) : Reading :=
  match r.phase with
  | .between => if isBreak c then r else r.first c
  | .begins => r.first c
  | .plain => r.outside c
  | .quoted =>
    if c = '"' then { r with phase := .quote } else { r with chars := r.chars ++ [c] }
  | .quote =>
    if c = '"' then { r with chars := r.chars ++ [c], phase := .quoted } else r.outside c

/-- The end of the text. A row that has begun ends there. -/
def finish (r : Reading) : List (List String) :=
  if r.phase = .between then r.rows else r.endRow.rows

end Reading

def read (text : String) : List (List String) := (text.toList.foldl Reading.advance {}).finish

section Fields

variable {r : Reading} {s : String}

theorem foldl_doubled (r : Reading) (hr : r.phase = .quoted) (cs : List Char) :
    (cs.flatMap fun c => if c = '"' then ['"', '"'] else [c]).foldl Reading.advance r =
      { r with chars := r.chars ++ cs } := by
  induction cs generalizing r with
  | nil => simp
  | cons c cs ih =>
    rw [List.flatMap_cons, List.foldl_append]
    by_cases hc : c = '"'
    · subst hc
      simp [Reading.advance, hr, ih]
    · simp [Reading.advance, hr, hc, ih]

theorem foldl_plain (r : Reading) (hr : r.phase = .plain) {cs : List Char}
    (hcs : ∀ c ∈ cs, isSpecial c = false) :
    cs.foldl Reading.advance r = { r with chars := r.chars ++ cs } := by
  induction cs generalizing r with
  | nil => simp
  | cons c cs ih =>
    obtain ⟨hc, hrest⟩ := List.forall_mem_cons.mp hcs
    have hstep : r.advance c = { r with chars := r.chars ++ [c] } := by
      simp only [isSpecial, Bool.or_eq_false_iff, beq_eq_false_iff_ne] at hc
      simp [Reading.advance, hr, Reading.outside, isBreak, hc]
    have hlater := ih { r with chars := r.chars ++ [c] } hr hrest
    rw [List.foldl_cons, hstep, hlater]
    simp

/-- A field is read with all its characters. Only an empty one in front of a row leaves no sign. -/
theorem exists_foldl_field (hchars : r.chars = []) (hr : r.phase = .between ∨ r.phase = .begins)
    (s : String) : ∃ phase, phase ≠ .quoted ∧ (r.phase = .begins → phase ≠ .between) ∧
      (field s).foldl Reading.advance r = { r with chars := s.toList, phase := phase } := by
  unfold field
  split
  · refine ⟨.quote, by simp, by simp, ?_⟩
    have hopen : r.advance '"' = { r with phase := .quoted } := by
      rcases hr with hr | hr <;> simp [Reading.advance, hr, Reading.first, isBreak]
    rw [List.cons_append, List.foldl_cons, hopen, List.foldl_append, foldl_doubled _ rfl]
    simp [Reading.advance, hchars]
  · next hplain =>
    cases hs : s.toList with
    | nil =>
      refine ⟨r.phase, by rcases hr with hr | hr <;> simp [hr], by simp +contextual, ?_⟩
      rw [List.foldl_nil, ← hchars]
    | cons c cs =>
      have hcs : ∀ x ∈ c :: cs, isSpecial x = false := by simpa [hs] using hplain
      obtain ⟨hc, hrest⟩ := List.forall_mem_cons.mp hcs
      have hfirst : r.advance c = { r with chars := [c], phase := .plain } := by
        simp only [isSpecial, Bool.or_eq_false_iff, beq_eq_false_iff_ne] at hc
        rcases hr with hr | hr <;>
          simp [Reading.advance, hr, Reading.first, Reading.outside, isBreak, hc, hchars]
      refine ⟨.plain, by simp, by simp, ?_⟩
      rw [List.foldl_cons, hfirst, foldl_plain _ rfl hrest]
      simp

theorem advance_comma (hr : r.phase ≠ .quoted) : r.advance ',' = r.endField := by
  cases hp : r.phase <;>
    simp_all [Reading.advance, Reading.first, Reading.outside, isBreak]

theorem advance_newline (hr : r.phase ≠ .quoted) (hr' : r.phase ≠ .between) :
    r.advance '\n' = r.endRow := by
  cases hp : r.phase <;>
    simp_all [Reading.advance, Reading.first, Reading.outside, isBreak]

end Fields

theorem row_cons_cons (s t : String) (rest : List String) :
    row (s :: t :: rest) = field s ++ ',' :: row (t :: rest) := by
  simp [row, fields]

theorem foldl_fields (rows : List (List String)) (before : List String) {fs : List String}
    (hfs : fs ≠ []) : (row fs).foldl Reading.advance ⟨rows, before, [], .begins⟩ =
      { rows := rows ++ [before ++ fs] } := by
  induction fs generalizing before with
  | nil => contradiction
  | cons s rest ih =>
    obtain ⟨phase, hquoted, hbetween, hfield⟩ :=
      exists_foldl_field (r := ⟨rows, before, [], .begins⟩) rfl (.inr rfl) s
    cases rest with
    | nil =>
      rw [row, fields, List.foldl_append, hfield, List.foldl_cons,
        advance_newline hquoted (hbetween rfl)]
      simp [Reading.endRow, Reading.endField]
    | cons t rest =>
      rw [row_cons_cons, List.foldl_append, hfield, List.foldl_cons, advance_comma hquoted]
      simpa [Reading.endField] using ih (before ++ [s]) (by simp)

/-- A row of at least two fields, which is never an empty line. -/
theorem foldl_row (rows : List (List String)) {fs : List String} (hfs : 2 ≤ fs.length) :
    (row fs).foldl Reading.advance { rows := rows } = { rows := rows ++ [fs] } := by
  match fs with
  | s :: t :: rest =>
    obtain ⟨phase, hquoted, -, hfield⟩ :=
      exists_foldl_field (r := { rows := rows }) rfl (.inl rfl) s
    have hlater := foldl_fields rows [s] (List.cons_ne_nil t rest)
    rw [row_cons_cons, List.foldl_append, hfield, List.foldl_cons, advance_comma hquoted]
    simpa [Reading.endField] using hlater

theorem foldl_rows (rows : List (List String)) {more : List (List String)}
    (h : ∀ fs ∈ more, 2 ≤ fs.length) :
    (more.flatMap row).foldl Reading.advance { rows := rows } = { rows := rows ++ more } := by
  induction more generalizing rows with
  | nil => simp
  | cons fs more ih =>
    obtain ⟨hfs, hmore⟩ := List.forall_mem_cons.mp h
    rw [List.flatMap_cons, List.foldl_append, foldl_row rows hfs, ih _ hmore]
    simp

/-- The rows of a table with at least two columns are read as they were written, after the header. -/
theorem read_table (header : List String) (rows : List (List String)) (hheader : 2 ≤ header.length)
    (hrows : ∀ fs ∈ rows, 2 ≤ fs.length) :
    read (table header rows) = if rows = [] then [] else header :: rows := by
  unfold read table
  by_cases hnil : rows = []
  · simp [hnil, Reading.finish]
  · have hall : ∀ fs ∈ header :: rows, 2 ≤ fs.length := List.forall_mem_cons.mpr ⟨hheader, hrows⟩
    have hread := foldl_rows [] hall
    rw [if_neg hnil, if_neg (by simpa using hnil), String.toList_ofList, hread]
    simp [Reading.finish]

end Csv

structure TraceEntry where
  step : Nat
  x : Nat
  y : Nat
  tile : TileId
  name : String
  deriving DecidableEq

namespace TraceEntry

/-- Takes each value from the column that the header gives its name to. A row has to have a field for
each column. -/
def ofRow? (header row : List String) : Option TraceEntry :=
  if row.length = header.length then do
    let column (key : String) := (header.zip row).lookup key
    let number (key : String) := (column key).bind fun digits => Text.digits? digits.toList
    return ⟨← number "step", ← number "x", ← number "y", ← number "tile", ← column "name"⟩
  else none

/-- What is to be said about a collapse: the tile by its own name, if there is such a tile. -/
def of (c : Catalog) (step : Nat) (made : Collapse) : TraceEntry :=
  ⟨step, made.position.x, made.position.y, made.tile,
    match c.tiles.tiles[made.tile]? with
    | some tile => tile.name
    | none => "?"⟩

theorem ofRow?_traceRow (c : Catalog) (step : Nat) (made : Collapse) :
    ofRow? traceHeader (traceRow c step made) = some (of c step made) := by
  have hof : of c step made = ⟨step, made.position.x, made.position.y, made.tile,
      (c.name? made.tile).getD "?"⟩ := by
    unfold of Catalog.name? TileSet.get?
    cases c.tiles.tiles[made.tile]? <;> rfl
  rw [hof]
  simp [ofRow?, traceHeader, traceRow, List.lookup_cons, Text.digits?_toDigits]

end TraceEntry

/-- The entries of a trace. The first row of the text names the columns. -/
def readTrace (text : String) : Option (List TraceEntry) :=
  match Csv.read text with
  | [] => some []
  | header :: rows => rows.mapM (TraceEntry.ofRow? header)

theorem mapM_traceRows (c : Catalog) (step : Nat) (history : List Collapse) :
    (traceRows c step history).mapM (TraceEntry.ofRow? traceHeader) =
      some (history.mapIdx fun k made => TraceEntry.of c (step + k) made) := by
  induction history generalizing step with
  | nil => rfl
  | cons made rest ih =>
    simp [traceRows, TraceEntry.ofRow?_traceRow, ih, List.mapIdx_cons, Nat.add_assoc,
      Nat.add_comm 1]

theorem length_of_mem_traceRows {c : Catalog} {step : Nat} {history : List Collapse}
    {row : List String} (h : row ∈ traceRows c step history) : row.length = 5 := by
  induction history generalizing step with
  | nil => contradiction
  | cons made rest ih =>
    rcases List.mem_cons.mp h with rfl | hrest
    · rfl
    · exact ih hrest

theorem readTrace_traceText (c : Catalog) (history : List Collapse) :
    readTrace (traceText c history) =
      some (history.mapIdx fun k made => TraceEntry.of c (k + 1) made) := by
  have hread := Csv.read_table traceHeader (traceRows c 1 history) (by decide)
    fun row hrow => by simp [length_of_mem_traceRows hrow]
  have hrows := mapM_traceRows c 1 history
  rw [readTrace, traceText, hread]
  cases history with
  | nil => rfl
  | cons made rest => simpa [traceRows, Nat.add_comm] using hrows

/-- Whatever the scheduler and the propagator, a solve collapses cells to tiles of its tile set. -/
theorem Engine.lt_size_of_mem_history {σ π : Type} {e : Engine σ π} {width height : Nat}
    {given : List Given} {now : Solve σ π} (h : e.Reaches width height given now) {made : Collapse}
    (hmade : made ∈ now.history) : made.tile < e.tiles.size := by
  have hchosen := ((mirrors_of_reaches h).chosen_iff made.position made.tile).mpr hmade
  have hadmits := (h.valid.admits_iff_of_chosen? hchosen made.tile).mpr rfl
  rw [← h.tileCount]
  exact h.valid.lt_tileCount hadmits

/-- For every catalog and every history, the text of the trace is read as one entry for each collapse,
in their order: its number, its position, its tile and the name of the tile, or a question mark if the
catalog has no such tile. In the history of a solve over the tiles of the catalog there is no such
collapse. -/
theorem trace_reads_back (c : Catalog) :
    (∀ history, readTrace (traceText c history) =
      some (history.mapIdx fun k made => TraceEntry.of c (k + 1) made)) ∧
    ∀ (σ π : Type) (e : Engine σ π) (width height : Nat) (given : List Given) (now : Solve σ π),
      e.tiles = c.tiles → e.Reaches width height given now →
        ∃ entries, readTrace (traceText c now.history) = some entries ∧
          ∀ (k : Nat) (made : Collapse), now.history[k]? = some made →
            ∃ (entry : TraceEntry) (tile : Tile), entries[k]? = some entry ∧
              c.tiles.tiles[made.tile]? = some tile ∧ entry.name = tile.name := by
  refine ⟨readTrace_traceText c, fun σ π e width height given now htiles h => ?_⟩
  refine ⟨_, readTrace_traceText c now.history, fun k made hk => ?_⟩
  have hlt := Engine.lt_size_of_mem_history h (List.mem_of_getElem? hk)
  rw [htiles] at hlt
  have htile : c.tiles.tiles[made.tile]? = some c.tiles.tiles[made.tile] :=
    Array.getElem?_eq_getElem hlt
  refine ⟨TraceEntry.of c (k + 1) made, c.tiles.tiles[made.tile], ?_, htile, ?_⟩
  · simp [List.getElem?_mapIdx, hk]
  · simp [TraceEntry.of, htile]

/-- Two tiles that go together. One has no name, the other has all in its name that takes quotes. -/
def TileSet.unwieldy : TileSet where
  tiles := #[⟨"", .uniform "g", 1⟩, ⟨"a,\"b\"\r\n", .uniform "g", 1⟩]
  index := .ofTiles [⟨"", .uniform "g", 1⟩, ⟨"a,\"b\"\r\n", .uniform "g", 1⟩]
  nonempty := by simp
  faultless := by decide +kernel
  index_eq := rfl

/-- A collapse to each of them fills a row, and is read back with its line break. A third tile, which
there is not, gets a question mark. -/
theorem trace_reads_back_unwieldy : ∃ now,
    (Engine.flooding .unwieldy .script [⟨1, 0⟩, ⟨0, 0⟩]).Reaches 2 1 [] now ∧
    traceText ⟨.unwieldy, []⟩ now.history =
      "step,x,y,tile,name\n1,1,0,1,\"a,\"\"b\"\"\r\n\"\n2,0,0,0,\n" ∧
    readTrace "step,x,y,tile,name\n1,1,0,1,\"a,\"\"b\"\"\r\n\"\n2,0,0,0,\n" =
      some [⟨1, 1, 0, 1, "a,\"b\"\r\n"⟩, ⟨2, 0, 0, 0, ""⟩] ∧
    (∃ entries, readTrace (traceText ⟨.unwieldy, []⟩ now.history) = some entries ∧
      ∃ entry tile, entries[1]? = some entry ∧ TileSet.unwieldy.tiles[0]? = some tile ∧
        entry.name = tile.name) ∧
    readTrace (traceText ⟨.unwieldy, []⟩ [⟨⟨5, wordLimit - 1⟩, 2⟩]) =
      some [⟨1, 5, wordLimit - 1, 2, "?"⟩] := by
  obtain ⟨now, h, hnow⟩ : ∃ now,
      (Engine.flooding .unwieldy .script [⟨1, 0⟩, ⟨0, 0⟩]).Reaches 2 1 [] now ∧
      now.history = [⟨⟨1, 0⟩, 1⟩, ⟨⟨0, 0⟩, 0⟩] :=
    Engine.exists_reaches 3 [.run] (by decide +kernel)
  have htext : traceText ⟨.unwieldy, []⟩ now.history =
      "step,x,y,tile,name\n1,1,0,1,\"a,\"\"b\"\"\r\n\"\n2,0,0,0,\n" := by
    rw [hnow]
    decide +kernel
  obtain ⟨hread, hsolve⟩ := trace_reads_back ⟨.unwieldy, []⟩
  obtain ⟨entries, hentries, hnames⟩ := hsolve _ _ _ _ _ _ now rfl h
  refine ⟨now, h, htext, ?_, ⟨entries, hentries, hnames 1 ⟨⟨0, 0⟩, 0⟩ (by rw [hnow]; rfl)⟩, ?_⟩
  · rw [← htext, hread, hnow]
    rfl
  · rw [hread]
    rfl

end EdgeTiling
