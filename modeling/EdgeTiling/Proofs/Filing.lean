import EdgeTiling.Files

/-! Putting text into files. A path that takes text leads to a name in a directory; putting text
there changes what this name stands for and nothing else, so the path takes other text afterwards,
and so does every path that took text before. -/

namespace EdgeTiling

namespace Files

section Entries

theorem find?_replace (names names' : List String) (n : Node) (nodes : List (List String × Node)) :
    ((nodes.map fun m => if m.1 == names then (names, n) else m).find? fun m => m.1 == names') =
      if names' = names then (nodes.find? fun m => m.1 == names).map fun _ => (names, n)
      else nodes.find? fun m => m.1 == names' := by
  induction nodes with
  | nil => simp
  | cons m rest ih => grind

theorem node?_put (f : Files) {names : List String} (n : Node) (names' : List String)
    (h : names ≠ []) :
    (f.put names n).node? names' = if names' = names then some n else f.node? names' := by
  by_cases hroot : names' = []
  · simp [node?, hroot, Ne.symm h]
  · unfold put
    split
    · next hany =>
      have hsome : (f.nodes.find? fun m => m.1 == names).isSome := by
        simpa [List.find?_isSome, List.any_eq_true] using hany
      obtain ⟨found, hfound⟩ := Option.isSome_iff_exists.mp hsome
      simp only [node?, if_neg hroot, find?_replace]
      split <;> simp [hfound]
    · next hnone =>
      have hmissing : (f.nodes.find? fun m => m.1 == names) = none := by
        rw [List.find?_eq_none]
        exact fun m hm heq => hnone (List.any_eq_true.mpr ⟨m, hm, heq⟩)
      simp only [node?, if_neg hroot, List.find?_append]
      by_cases heq : names' = names
      · simp [heq, hmissing]
      · simp [heq, Ne.symm heq]

@[simp] theorem outside_put (f : Files) (names : List String) (n : Node) :
    (f.put names n).outside = f.outside := by
  unfold put
  split <;> rfl

/-- A name stands for what it was made to stand for, and every other for what it did before. -/
theorem lookup_putEntry (f : Files) (folder folder' : Folder) (name name' : String) (n : Node) :
    entry? (f.putEntry folder name n) folder' name' =
      if (folder', name') = (folder, name) then some n else f.entry? folder' name' := by
  have hput : ∀ place : Folder × String, (((folder, name), n) :: f.outside).lookup place =
      if place = (folder, name) then some n else f.outside.lookup place := by
    intro place
    rw [List.lookup_cons]
    by_cases h : place = (folder, name)
    · simp [h]
    · simp [h, beq_eq_false_iff_ne.mpr h]
  cases folder with
  | below names =>
    cases folder' with
    | below names' =>
      have hsame : names' ++ [name'] = names ++ [name] ↔
          (Folder.below names', name') = (Folder.below names, name) := by
        rw [Prod.mk.injEq, Folder.below.injEq]
        exact ⟨fun h => by simpa using List.append_inj' h rfl, fun h => by rw [h.1, h.2]⟩
      have hne : names ++ [name] ≠ [] := by simp
      simp only [putEntry, entry?, node?_put f n _ hne, hsame]
    | above => simp [putEntry, entry?]
    | rooted names' => simp [putEntry, entry?]
  | above =>
    cases folder' with
    | below names' => simp [putEntry, entry?, node?]
    | above => exact hput (.above, name')
    | rooted names' => exact hput (.rooted names', name')
  | rooted names =>
    cases folder' with
    | below names' => simp [putEntry, entry?, node?]
    | above => exact hput (.above, name')
    | rooted names' => exact hput (.rooted names', name')

end Entries

section Places

variable {f f' : Files} {p q : Path} {folder : Folder} {name : String} {text : String}

def place? (f : Files) (p : Path) : Option (Folder × String) :=
  match f.locate p with
  | .ok (.entry folder name) => some (folder, name)
  | _ => none

theorem place?_eq_some : f.place? p = some (folder, name) ↔ f.locate p = .ok (.entry folder name) := by
  unfold place?
  split <;> simp_all

theorem enter_cons_eq_ok {rest : List String} {goal : Folder} (hname : name ≠ "..") :
    f.enter folder (name :: rest) = .ok goal ↔ name.utf8ByteSize ≤ nameLimit ∧
      f.entry? folder name = some .directory ∧ f.enter (folder.child name) rest = .ok goal := by
  rw [enter.eq_3 _ _ _ _ hname, lookUp]
  by_cases hlong : nameLimit < name.utf8ByteSize
  · simp [hlong, Nat.not_le.mpr hlong, bind, Except.bind]
  · rw [if_neg hlong]
    cases hentry : f.entry? folder name with
    | none => simp [bind, Except.bind]
    | some n => cases n <;> simp [bind, Except.bind, Nat.not_lt.mp hlong]

/-- Directories that stay lead where they led. -/
theorem enter_mono (hdirs : ∀ folder name, f.entry? folder name = some .directory →
      f'.entry? folder name = some .directory) {names : List String} {folder goal : Folder}
    (h : f.enter folder names = .ok goal) : f'.enter folder names = .ok goal := by
  induction folder, names using enter.induct with
  | case1 folder => exact h
  | case2 folder rest ih =>
    rw [enter] at h ⊢
    exact ih h
  | case3 folder name rest hname ih =>
    rw [enter_cons_eq_ok hname] at h ⊢
    exact ⟨h.1, hdirs _ _ h.2.1, ih h.2.2⟩

/-- What a path has to be like to lead to a name, wherever the directories in it lead. -/
def Names (p : Path) (name : String) : Prop :=
  Char.ofNat 0 ∉ p.toList ∧ p.utf8ByteSize < pathLimit ∧ p ≠ "" ∧ p.names.getLast? = some name ∧
    name ≠ ".." ∧ p.ending ≠ .dot

theorem locate_eq_entry_iff : f.locate p = .ok (.entry folder name) ↔ Names p name ∧
    f.enter (if p.isAbsolute then .rooted [] else .below []) p.names.dropLast = .ok folder := by
  unfold locate Names
  simp only [bind, Except.bind, List.contains_iff_mem]
  by_cases hzero : Char.ofNat 0 ∈ p.toList
  · simp [hzero]
  by_cases hlong : pathLimit ≤ p.utf8ByteSize
  · simp [hzero, hlong, Nat.not_lt.mpr hlong]
  by_cases hempty : p = ""
  · rw [if_neg hzero, if_neg hlong, if_pos hempty]
    exact iff_of_false (by simp) fun h => h.1.2.2.1 hempty
  simp only [hzero, hlong, hempty, if_false, not_false_eq_true, true_and, ne_eq,
    Nat.not_le.mp hlong]
  cases hlast : p.names.getLast? with
  | none => simp [pure, Except.pure]
  | some last =>
    by_cases hdots : last = ".." ∨ p.ending = .dot
    · simp only [hdots, if_true]
      refine iff_of_false (fun h => ?_) ?_
      · split at h <;> cases h
      · rintro ⟨⟨hsome, hup, hdot⟩, -⟩
        obtain rfl := Option.some.inj hsome
        exact hdots.elim hup hdot
    · simp only [hdots, if_false]
      obtain ⟨hup, hdot⟩ := not_or.mp hdots
      cases f.enter (if p.isAbsolute then .rooted [] else .below []) p.names.dropLast with
      | error e => simp
      | ok goal =>
        simp only [pure, Except.pure, Except.ok.injEq, Place.entry.injEq, Option.some.injEq]
        exact ⟨fun h => ⟨⟨h.2, h.2 ▸ hup, hdot⟩, h.1⟩, fun h => ⟨h.2, h.1.1⟩⟩

theorem place?_mono (hdirs : ∀ folder name, f.entry? folder name = some .directory →
      f'.entry? folder name = some .directory) (h : f.place? p = some (folder, name)) :
    f'.place? p = some (folder, name) := by
  rw [place?_eq_some, locate_eq_entry_iff] at h ⊢
  exact ⟨h.1, enter_mono hdirs h.2⟩

theorem place?_of_splitOn (f : Files) (hsplit : p.splitOn "/" = [p]) (hname : p ∉ ["", ".", ".."])
    (hrelative : p.isAbsolute = false) (hzero : Char.ofNat 0 ∉ p.toList)
    (hshort : p.utf8ByteSize ≤ nameLimit) :
    f.place? p = some (.below [], p) ∧ p.ending ≠ .slash := by
  simp only [List.mem_cons, List.not_mem_nil, or_false, not_or] at hname
  obtain ⟨hempty, hdot, hdots⟩ := hname
  have hnames : Path.names p = [p] := by simp [Path.names, hsplit, hempty, hdot]
  have hending : Path.ending p = .bare := by simp [Path.ending, hsplit, hempty, hdot]
  have hlong : p.utf8ByteSize < pathLimit := Nat.lt_of_le_of_lt hshort (by decide)
  rw [place?_eq_some, locate_eq_entry_iff, hrelative, hnames, Names, hnames, hending]
  exact ⟨⟨⟨hzero, hlong, hempty, rfl, hdots, nofun⟩, rfl⟩, nofun⟩

end Places

section Writes

variable {f f' f₁ f₂ : Files} {p : Path} {p? q? : Option Path} {folder : Folder} {name : String}
  {text text' : String}

def Takes (f : Files) (p : Path) : Prop := ∀ text, ∃ f', f.write p text = .ok f'

/-- What a name stands for after text was put there. A sink stays what it is. -/
def received (text : String) : Option Node → Node
  | some .sink => .sink
  | _ => .file (some text)

theorem received_eq (text : String) (n : Option Node) :
    received text n = .sink ∨ received text n = .file (some text) := by
  unfold received
  split
  · exact .inl rfl
  · exact .inr rfl

/-- The name that the path leads to, if there is one, has received the text, and all else is as
before. -/
def Stores (f : Files) (p? : Option Path) (text : String) (f' : Files) : Prop :=
  ∀ folder name, f'.entry? folder name =
    if p?.bind f.place? = some (folder, name) then some (received text (f.entry? folder name))
    else f.entry? folder name

theorem stores_none (f : Files) (text : String) : f.Stores none text f :=
  fun _ _ => rfl

theorem write_of_place? (hplace : f.place? p = some (folder, name))
    (hshort : name.utf8ByteSize ≤ nameLimit) (hending : p.ending ≠ .slash) :
    f.write p text = match f.entry? folder name with
      | some .directory => .error .isDirectory
      | some .sink => .ok f
      | some .full => if text = "" then .ok f else .error .noSpace
      | _ => .ok (f.putEntry folder name (.file (some text))) := by
  rw [place?_eq_some] at hplace
  simp only [write, hplace, bind, Except.bind, if_neg hending, lookUp, Nat.not_lt.mpr hshort,
    if_false]
  cases f.entry? folder name with
  | none => rfl
  | some n => cases n <;> rfl

theorem place?_of_write (h : f.write p text = .ok f') : ∃ folder name,
    f.place? p = some (folder, name) ∧ name.utf8ByteSize ≤ nameLimit ∧ p.ending ≠ .slash := by
  rcases hl : f.locate p with cause | _ | ⟨folder, name⟩
  · simp [write, hl, bind, Except.bind] at h
  · simp [write, hl, bind, Except.bind] at h
  · refine ⟨folder, name, place?_eq_some.mpr hl, Nat.not_lt.mp fun hlong => ?_, fun hslash => ?_⟩
    · simp only [write, hl, bind, Except.bind, lookUp, if_pos hlong] at h
      split at h <;> contradiction
    · simp [write, hl, bind, Except.bind, hslash] at h

theorem takes_iff : f.Takes p ↔ ∃ folder name, f.place? p = some (folder, name) ∧
    name.utf8ByteSize ≤ nameLimit ∧ p.ending ≠ .slash ∧
      f.entry? folder name ≠ some .directory ∧ f.entry? folder name ≠ some .full := by
  constructor
  · intro h
    obtain ⟨f', hf'⟩ := h "a"
    obtain ⟨folder, name, hplace, hshort, hending⟩ := place?_of_write hf'
    rw [write_of_place? hplace hshort hending] at hf'
    refine ⟨folder, name, hplace, hshort, hending, fun hdir => ?_, fun hfull => ?_⟩
    · simp [hdir] at hf'
    · simp [hfull] at hf'
  · rintro ⟨folder, name, hplace, hshort, hending, hdir, hfull⟩ text
    rw [write_of_place? hplace hshort hending]
    cases hentry : f.entry? folder name with
    | none => exact ⟨_, rfl⟩
    | some n =>
      cases n with
      | file content => exact ⟨_, rfl⟩
      | directory => exact absurd hentry hdir
      | sink => exact ⟨_, rfl⟩
      | full => exact absurd hentry hfull

theorem stores_putEntry (hplace : f.place? p = some (folder, name))
    (hsink : f.entry? folder name ≠ some .sink) :
    f.Stores (some p) text (f.putEntry folder name (.file (some text))) := by
  intro folder' name'
  rw [lookup_putEntry, Option.bind_some, hplace]
  by_cases heq : (folder', name') = (folder, name)
  · obtain ⟨rfl, rfl⟩ := Prod.mk.inj heq
    rw [if_pos rfl, if_pos rfl]
    cases hentry : f.entry? folder' name' with
    | none => rfl
    | some n =>
      cases n with
      | sink => exact absurd hentry hsink
      | _ => rfl
  · rw [if_neg heq, if_neg fun h => heq (Option.some.inj h).symm]

theorem Takes.exists_write (h : f.Takes p) (text : String) :
    ∃ f', f.write p text = .ok f' ∧ f.Stores (some p) text f' := by
  obtain ⟨folder, name, hplace, hshort, hending, hdir, hfull⟩ := takes_iff.mp h
  rw [write_of_place? hplace hshort hending]
  cases hentry : f.entry? folder name with
  | none => exact ⟨_, rfl, stores_putEntry hplace (by simp [hentry])⟩
  | some n =>
    cases n with
    | file content => exact ⟨_, rfl, stores_putEntry hplace (by simp [hentry])⟩
    | directory => exact absurd hentry hdir
    | sink =>
      refine ⟨f, rfl, fun folder' name' => ?_⟩
      split
      · next heq =>
        cases hplace.symm.trans heq
        rw [hentry]
        rfl
      · rfl
    | full => exact absurd hentry hfull

theorem Stores.directory (hs : f.Stores q? text f') (hq : ∀ q ∈ q?, f.Takes q) (folder : Folder)
    (name : String) (h : f.entry? folder name = some .directory) :
    f'.entry? folder name = some .directory := by
  rw [hs, if_neg, h]
  intro heq
  obtain ⟨q, rfl, hplace⟩ := Option.bind_eq_some_iff.mp heq
  obtain ⟨folder', name', hplace', -, -, hdir, -⟩ := takes_iff.mp (hq q rfl)
  cases hplace.symm.trans hplace'
  exact hdir h

/-- After text was stored somewhere, a path that took text takes it at the same place. -/
theorem Stores.takes (hs : f.Stores q? text f') (hq : ∀ q ∈ q?, f.Takes q) (hp : f.Takes p) :
    f'.Takes p ∧ f'.place? p = f.place? p := by
  obtain ⟨folder, name, hplace, hshort, hending, hdir, hfull⟩ := takes_iff.mp hp
  have hplace' := place?_mono (hs.directory hq) hplace
  refine ⟨takes_iff.mpr ⟨folder, name, hplace', hshort, hending, ?_⟩, hplace'.trans hplace.symm⟩
  rw [hs]
  split
  · rcases received_eq text (f.entry? folder name) with hr | hr <;> simp [hr]
  · exact ⟨hdir, hfull⟩

theorem Stores.bind_place? (hs : f.Stores q? text f') (hq : ∀ q ∈ q?, f.Takes q)
    (hp : ∀ p ∈ p?, f.Takes p) : p?.bind f'.place? = p?.bind f.place? := by
  cases p? with
  | none => rfl
  | some p => exact (hs.takes hq (hp p rfl)).2

theorem received_received (text text' : String) (n : Option Node) :
    received text' (some (received text n)) = received text' n := by
  cases n with
  | none => rfl
  | some n => cases n <;> rfl

theorem Takes.exists_write_write (h : f.Takes p) (text text' : String) : ∃ f₁ f₂,
    f.write p text = .ok f₁ ∧ f₁.write p text' = .ok f₂ ∧ f.Stores (some p) text' f₂ := by
  obtain ⟨f₁, hwrite, hs⟩ := h.exists_write text
  have hself : ∀ q ∈ some p, f.Takes q := fun q hq => Option.some.inj hq ▸ h
  obtain ⟨f₂, hwrite', hs'⟩ := (hs.takes hself h).1.exists_write text'
  refine ⟨f₁, f₂, hwrite, hwrite', fun folder name => ?_⟩
  rw [hs' folder name, hs.bind_place? hself hself, hs folder name]
  split
  · rw [received_received]
  · rfl

def Holds (f : Files) (p : Path) (text : String) : Prop :=
  f.read p = .ok text ∨ f.find p = .ok .sink

theorem Takes.holds {n : Option Node} (h : f.Takes p) (hplace : f.place? p = some (folder, name))
    (hentry : f.entry? folder name = some (received text n)) : f.Holds p text := by
  obtain ⟨folder', name', hplace', hshort, hending, -⟩ := takes_iff.mp h
  cases hplace.symm.trans hplace'
  have hfind : ∀ node, f.entry? folder name = some node → node ≠ .directory →
      f.find p = .ok node := by
    intro node hnode hne
    simp only [find, place?_eq_some.mp hplace, lookUp, Nat.not_lt.mpr hshort, if_false, hnode,
      if_neg hending, bind, Except.bind]
    cases node with
    | directory => contradiction
    | _ => rfl
  rcases received_eq text n with hsink | hfile
  · exact .inr (hfind .sink (hsink ▸ hentry) (by simp))
  · left
    simp [read, hfind _ (hfile ▸ hentry) (by simp), bind, Except.bind, pure, Except.pure]

theorem Stores.holds {n : Option Node} (hs : f.Stores q? text' f') (hq : ∀ q ∈ q?, f.Takes q)
    (hp : f.Takes p) (hplace : f.place? p = some (folder, name))
    (hentry : f'.entry? folder name = some (received text n)) : f'.Holds p text := by
  obtain ⟨htakes, hsame⟩ := hs.takes hq hp
  exact htakes.holds (hsame.trans hplace) hentry

section Twice

variable (hs : f.Stores p? text f₁) (hs' : f₁.Stores q? text' f₂) (hp : ∀ p ∈ p?, f.Takes p)
  (hq : ∀ q ∈ q?, f.Takes q)
include hs hs' hp hq

theorem Stores.holds_first (h : p ∈ p?) (hne : q?.bind f.place? ≠ f.place? p) :
    f₂.Holds p text := by
  obtain ⟨folder, name, hplace, -⟩ := takes_iff.mp (hp p h)
  obtain ⟨htakes, hsame⟩ := hs.takes hp (hp p h)
  refine hs'.holds (n := f.entry? folder name) (fun q hmem => (hs.takes hp (hq q hmem)).1) htakes
    (hsame.trans hplace) ?_
  rw [hs', hs.bind_place? hp hq, if_neg (hplace ▸ hne), hs, if_pos (by rw [h]; exact hplace)]

theorem Stores.holds_second (h : p ∈ q?) : f₂.Holds p text' := by
  obtain ⟨folder, name, hplace, -⟩ := takes_iff.mp (hq p h)
  obtain ⟨htakes, hsame⟩ := hs.takes hp (hq p h)
  refine hs'.holds (n := f₁.entry? folder name) (fun q hmem => (hs.takes hp (hq q hmem)).1) htakes
    (hsame.trans hplace) ?_
  rw [hs', hs.bind_place? hp hq, if_pos (by rw [h]; exact hplace)]

theorem Stores.untouched (hfirst : p?.bind f.place? ≠ some (folder, name))
    (hsecond : q?.bind f.place? ≠ some (folder, name)) :
    f₂.entry? folder name = f.entry? folder name := by
  rw [hs', hs.bind_place? hp hq, if_neg hsecond, hs, if_neg hfirst]

end Twice

end Writes

end Files

end EdgeTiling
