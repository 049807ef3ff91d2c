import EdgeTiling.Proofs.Filing
import EdgeTiling.Proofs.Foresight
import EdgeTiling.Proofs.Tables

/-! What a run leaves behind. The collapses of the last attempt are written whatever came of it, the
grid only if every cell is decided; then its table has an id for each of them, so the file, which is
emptied first, is never left without it. Nothing else is touched. -/

namespace EdgeTiling

theorem traceRows_eq (c : Catalog) (step : Nat) (history : List Collapse) :
    traceRows c step history = history.mapIdx fun i made => traceRow c (step + i) made := by
  induction history generalizing step with
  | nil => rfl
  | cons made rest ih =>
    simp [traceRows, ih, List.mapIdx_cons, Nat.add_assoc, Nat.add_comm 1]

namespace Engine

variable {ts : TileSet} {how : Selection} {width height : Nat} {now : Solve Unit Unit}

theorem exists_gridText (h : (standard ts how).Reaches width height [] now)
    (hr : now.status = .resolved) (c : Catalog) (seed : UInt64) (format : GridFormat) :
    ∃ text, gridText now.snapshot c seed format = .ok text ∧
      (format = .text → now.grid.Tabulates width height text) := by
  have hall := h.valid.allResolved_iff.mp
    (allResolved_of_reaches (Scheduler.faithful_fewest how) h hr)
  have hchosen : ∀ p, now.grid.Inside p →
      now.grid.chosen? p = some ((now.grid.chosen? p).getD 0) := by
    intro p hp
    obtain ⟨t, ht⟩ := Option.isSome_iff_exists.mp (hall p hp)
    rw [ht, Option.getD_some]
  obtain ⟨rfl, rfl⟩ : now.grid.width = width ∧ now.grid.height = height :=
    ⟨congrArg (·.1) h.shape_eq, congrArg (·.2.1) h.shape_eq⟩
  cases format with
  | json => exact ⟨_, rfl, nofun⟩
  | text =>
    refine ⟨_, ?_, fun _ => ⟨_, fun p hx hy => hchosen p ⟨hx, hy⟩, rfl⟩⟩
    rw [gridText, now.text_snapshot h.valid h.width_pos hchosen]

end Engine

namespace Run

open Retry (Attempt)
open Survey (Begins)

variable {s : Settings} {c : Catalog} {seed : UInt64} {host host₁ host' : Session}

section Writing

theorem run_bind_eq {S α β : Type} {x : StateM S α} {f : α → StateM S β} {h h' : S} {a : α}
    (hx : x.run h = (a, h')) : (x >>= f).run h = (f a).run h' := by
  rw [StateT.run_bind, hx]
  rfl

variable {path : Path} {text : String}

theorem run_note (r : Record) :
    (Host.note r : StateM Session _).run host = ((), host.note r) :=
  rfl

theorem run_save {files : Files} (h : host.files.write path text = .ok files) :
    (Host.save path text : StateM Session _).run host = (.ok (), { host with files := files }) := by
  change host.save path text = _
  rw [Session.save, h]

/-- A file is emptied and then filled. -/
theorem exists_run_save (host : Session) (text : String) (h : host.files.Takes path) : ∃ host₁ host₂,
    (Host.save path "" : StateM Session _).run host = (.ok (), host₁) ∧
      (Host.save path text : StateM Session _).run host₁ = (.ok (), host₂) ∧
      host.files.Stores (some path) text host₂.files := by
  obtain ⟨f₁, f₂, hfirst, hsecond, hstores⟩ := h.exists_write_write "" text
  have hsecond : ({ host with files := f₁ } : Session).files.write path text = .ok f₂ := hsecond
  exact ⟨_, _, run_save hfirst, run_save hsecond, hstores⟩

theorem run_saveTrace (c : Catalog) (history : List Collapse) (h : host.files.Takes path) :
    ∃ host', (saveTrace c history path : StateM Session _).run host = (.ok (), host') ∧
      host.files.Stores (some path) (traceText c history) host'.files := by
  obtain ⟨host₁, host₂, hfirst, hsecond, hstores⟩ := exists_run_save host (traceText c history) h
  have hsave : (Csv.save path (traceText c history) : StateM Session _).run host =
      (.ok (), host₂) :=
    (run_bind_eq hfirst).trans (run_bind_eq hsecond)
  exact ⟨_, run_bind_eq hsave, hstores⟩

/-- The file is emptied before the text of the grid is made, so there must be one. -/
theorem run_saveGrid {snapshot : Snapshot} {format : GridFormat} (h : host.files.Takes path)
    (htext : gridText snapshot c seed format = .ok text) :
    ∃ host', (saveGrid snapshot c seed format path : StateM Session _).run host =
        (.ok (), host') ∧ host.files.Stores (some path) text host'.files := by
  have hsaves := fun r => exists_run_save (host.note r) text h
  dsimp only [saveGrid]
  rw [run_bind_eq (run_note _)]
  obtain ⟨host₁, host₂, hfirst, hsecond, hstores⟩ := hsaves _
  rw [run_bind_eq hfirst]
  simp only [htext]
  exact ⟨_, run_bind_eq hsecond, hstores⟩

theorem run_writeTrace (host : Session) (c : Catalog) (history : List Collapse)
    (h : ∀ path ∈ s.traceCsv, host.files.Takes path) :
    ∃ host', (writeTrace s c history : StateM Session _).run host = (.ok (), host') ∧
      host.files.Stores s.traceCsv (traceText c history) host'.files := by
  unfold writeTrace
  cases hpath : s.traceCsv with
  | none => exact ⟨host, rfl, Files.stores_none _ _⟩
  | some path =>
    obtain ⟨host', hsave, hstores⟩ := run_saveTrace c history (h path hpath)
    exact ⟨host', run_bind_eq hsave, hstores⟩

theorem run_writeGrid (host : Session) {solve : Solve Unit Unit}
    (h : ∀ path ∈ s.outputPath, host.files.Takes path)
    (htext : gridText solve.snapshot c solve.seed s.outputFormat = .ok text) :
    ∃ host', (writeGrid s c solve : StateM Session _).run host = (.ok (), host') ∧
      host.files.Stores s.outputPath text host'.files := by
  unfold writeGrid
  cases hpath : s.outputPath with
  | none => exact ⟨host, rfl, Files.stores_none _ _⟩
  | some path =>
    obtain ⟨host', hsave, hstores⟩ := run_saveGrid (h path hpath) htext
    exact ⟨host', run_bind_eq hsave, hstores⟩

end Writing

theorem settles_showEnd (files : Files) (s : Settings) (c : Catalog) (solve : Solve Unit Unit) :
    Settles (Works files s.mode) (showEnd s c solve) (· = .ok ()) := by
  unfold showEnd
  split
  · next hmode => exact settles_showGrid (by simp [hmode]) _ _ _
  · exact .pure rfl

def gridPath (s : Settings) (status : Status) : Option Path :=
  if status = .resolved then s.outputPath else none

theorem run_standard_of_error {e : Failure}
    (hsearch : (search s c seed : StateM Session _).run (host.note standardRecord) =
      (.error e, host₁)) :
    (standard s c seed : StateM Session _).run host = (.error e, host₁) :=
  (run_bind_eq (run_note standardRecord)).trans (run_bind_eq hsearch)

theorem run_standard_of_ok {outcome : Retry.Outcome Unit Unit} {text : String}
    (hsearch : (search s c seed : StateM Session _).run (host.note standardRecord) =
      (.ok outcome, host₁)) (hworks : Works host.files s.mode host₁)
    (htrace : ∀ path ∈ s.traceCsv, host.files.Takes path)
    (houtput : ∀ path ∈ s.outputPath, host.files.Takes path)
    (htext : outcome.solve.status = .resolved →
      gridText outcome.solve.snapshot c outcome.solve.seed s.outputFormat = .ok text) :
    ∃ files host', (standard s c seed : StateM Session _).run host =
        (if outcome.solve.status = .resolved then .ok outcome
          else .error (.unresolved outcome.attempts outcome.solve.status), host') ∧
      host.files.Stores s.traceCsv (traceText c outcome.solve.history) files ∧
      files.Stores (gridPath s outcome.solve.status) text host'.files := by
  obtain ⟨_, host₂, hshown, rfl, hfiles, -⟩ :=
    (settles_showEnd host.files s c outcome.solve).exists_run hworks
  obtain ⟨host₃, hwritten, hstores⟩ := run_writeTrace host₂ c outcome.solve.history
    (by rw [hfiles]; exact htrace)
  rw [hfiles] at hstores
  unfold standard
  rw [run_bind_eq (run_note standardRecord), run_bind_eq hsearch]
  dsimp only
  rw [run_bind_eq hshown]
  dsimp only
  rw [run_bind_eq hwritten]
  dsimp only
  cases hstatus : outcome.solve.status with
  | resolved =>
    obtain ⟨host', hgrid, hstores'⟩ := run_writeGrid host₃
      (fun path hpath => (hstores.takes htrace (houtput path hpath)).1) (htext hstatus)
    exact ⟨host₃.files, host', run_bind_eq hgrid, hstores, hstores'⟩
  | inProgress => exact ⟨host₃.files, host₃, rfl, hstores, Files.stores_none _ _⟩
  | contradiction p => exact ⟨host₃.files, host₃, rfl, hstores, Files.stores_none _ _⟩

section Concluding

variable {earlier : List (Attempt Unit Unit)} {last : Attempt Unit Unit} {status : Status}
  (h : Concludes s c seed earlier last status)
include h

theorem Concludes.begins_last : Begins c.tiles s.width s.height s.selection
    (seed + UInt64.ofNat earlier.length) last :=
  h.begins _ _ (by simp)

theorem Concludes.reaches :
    (Engine.standard c.tiles s.selection).Reaches s.width s.height [] last.run.solve := by
  obtain ⟨e, begun⟩ := last
  obtain ⟨rfl, hstart⟩ := h.begins_last
  exact (Engine.reaches_of_start hstart).answer .run

theorem Concludes.start_ne_error (cause : SolverError) :
    ((Engine.standard c.tiles s.selection).start s.width s.height seed []).result ≠
      .error cause := by
  intro hstart
  obtain ⟨hengine, hlast⟩ := h.begins_last
  rw [hengine, start_error_of_start_error hstart] at hlast
  cases hlast

end Concluding

structure Delivers (s : Settings) (c : Catalog) (files files' : Files)
    (result : Except Failure (Retry.Outcome Unit Unit)) (earlier : List (Attempt Unit Unit))
    (last : Attempt Unit Unit) (status : Status) : Prop where
  ok_iff : (∃ o, result = .ok o) ↔ status = .resolved
  resolved : status = .resolved → result = .ok ⟨last.run.solve, earlier.length + 1⟩
  unresolved : status ≠ .resolved →
    result = .error (.unresolved (max 1 s.attempts.toNat) status)
  /-- The collapses are there whatever the status is, unless the grid is put in their place. -/
  trace : ∀ path ∈ s.traceCsv, (gridPath s status).bind files.place? ≠ files.place? path →
    files'.Holds path (Csv.table traceHeader
      (last.run.solve.history.mapIdx fun i made => traceRow c (1 + i) made))
  grid : status = .resolved → ∃ text,
    gridText last.run.solve.snapshot c last.run.solve.seed s.outputFormat = .ok text ∧
      (∀ path ∈ s.outputPath, files'.Holds path text) ∧
      (s.outputFormat = .text → last.run.solve.grid.Tabulates s.width s.height text)
  untouched : ∀ folder name, s.traceCsv.bind files.place? ≠ some (folder, name) →
    (gridPath s status).bind files.place? ≠ some (folder, name) →
    files'.entry? folder name = files.entry? folder name

theorem takes_gridPath {files : Files} (h : ∀ path ∈ s.outputPath, files.Takes path)
    (status : Status) : ∀ path ∈ gridPath s status, files.Takes path := by
  unfold gridPath
  split
  · exact h
  · nofun

theorem Concludes.delivers {earlier : List (Attempt Unit Unit)} {last : Attempt Unit Unit}
    {status : Status} {result : Except Failure (Retry.Outcome Unit Unit)}
    (h : Concludes s c seed earlier last status)
    (hsearch : (search s c seed : StateM Session _).run (host.note standardRecord) =
      (.ok ⟨last.run.solve, earlier.length + 1⟩, host₁)) (hworks : Works host.files s.mode host₁)
    (htrace : ∀ path ∈ s.traceCsv, host.files.Takes path)
    (houtput : ∀ path ∈ s.outputPath, host.files.Takes path)
    (hrun : (standard s c seed : StateM Session _).run host = (result, host')) :
    Delivers s c host.files host'.files result earlier last status := by
  have hstatus : last.run.solve.status = status := Attempt.status_eq h.ended
  obtain ⟨text, htext⟩ : ∃ text, status = .resolved →
      gridText last.run.solve.snapshot c last.run.solve.seed s.outputFormat = .ok text ∧
      (s.outputFormat = .text → last.run.solve.grid.Tabulates s.width s.height text) := by
    by_cases hres : status = .resolved
    · obtain ⟨text, htext⟩ := Engine.exists_gridText h.reaches (hstatus.trans hres) c
        last.run.solve.seed s.outputFormat
      exact ⟨text, fun _ => htext⟩
    · exact ⟨"", fun hr => absurd hr hres⟩
  obtain ⟨files, host₂, hstandard, hstores, hstores'⟩ := run_standard_of_ok hsearch hworks htrace
    houtput fun hres => (htext (hstatus.symm.trans hres)).1
  obtain ⟨rfl, rfl⟩ := Prod.mk.inj (hstandard.symm.trans hrun)
  have hgrid := takes_gridPath houtput status
  simp only [hstatus] at hstores' ⊢
  exact
    { ok_iff := by split <;> simp_all
      resolved := fun hres => if_pos hres
      unresolved := fun hres => by
        rw [if_neg hres, (h.stopped.resolve_left hres).1]
      trace := fun path hpath hne => by
        rw [← traceRows_eq]
        exact hstores.holds_first hstores' htrace hgrid hpath hne
      grid := fun hres => by
        refine ⟨text, (htext hres).1, fun path hpath => ?_, (htext hres).2⟩
        exact hstores.holds_second hstores' htrace hgrid (by rwa [gridPath, if_pos hres])
      untouched := fun folder name => hstores.untouched hstores' htrace hgrid }

section Standard

variable {result : Except Failure (Retry.Outcome Unit Unit)}

/-- A run whose writes succeed comes to what is foreseen. Only a search that ends touches the
files. -/
theorem standard_outcome (hscreen : s.mode ≠ .none → host.screen = .ready)
    (htrace : ∀ path ∈ s.traceCsv, host.files.Takes path)
    (houtput : ∀ path ∈ s.outputPath, host.files.Takes path)
    (hrun : (standard s c seed : StateM Session _).run host = (result, host')) :
    (∃ earlier last status, Concludes s c seed earlier last status ∧
      (Retry.untilResolved (foreseen s c) s.attempts seed).run =
        .ok ⟨last.run.solve, earlier.length + 1⟩ ∧
      Delivers s c host.files host'.files result earlier last status) ∨
    (∃ cause, (Retry.untilResolved (foreseen s c) s.attempts seed).run = .error (.solver cause) ∧
      (cause = .weights .infiniteTotal ∨
        ((Engine.standard c.tiles s.selection).start s.width s.height seed []).result =
          .error cause) ∧
      result = .error (.solver cause) ∧ host'.files = host.files) := by
  obtain ⟨found, host₁, hsearch, rfl, hworks⟩ :=
    (settles_search host.files s c seed).exists_run (s := host.note standardRecord) ⟨rfl, hscreen⟩
  rcases foreseen_outcome s c seed with
    ⟨cause, hstart, hfound⟩ | ⟨earlier, last, status, hconc, hfound⟩ | hfound
  · rw [hfound] at hsearch
    obtain ⟨rfl, rfl⟩ := Prod.mk.inj ((run_standard_of_error hsearch).symm.trans hrun)
    exact .inr ⟨cause, hfound, .inr hstart, rfl, hworks.1⟩
  · rw [hfound] at hsearch
    exact .inl ⟨earlier, last, status, hconc, hfound,
      hconc.delivers hsearch hworks htrace houtput hrun⟩
  · rw [hfound] at hsearch
    obtain ⟨rfl, rfl⟩ := Prod.mk.inj ((run_standard_of_error hsearch).symm.trans hrun)
    exact .inr ⟨_, hfound, .inl rfl, rfl, hworks.1⟩

end Standard

def filedSettings : Settings :=
  { skewSettings with traceCsv := some "t", outputPath := some "g" }

end Run

end EdgeTiling
