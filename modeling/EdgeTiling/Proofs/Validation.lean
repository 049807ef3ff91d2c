import EdgeTiling.Proofs.Restrictions

/-! Which set-ups fail. A bad restriction, one of a cell outside the grid or to an unknown tile, is
found if and only if the restrictions listed before it leave every cell a tile: once a cell is
empty the rest of the list is not looked at. So the order of the list can decide whether a set-up
fails, and does exactly if the list has a bad restriction and the others empty a cell. -/

namespace EdgeTiling

theorem Grid.new_eq_error_iff {width height n : Nat} (hn : 0 < n) :
    (∃ cause, Grid.new width height n = .error cause) ↔
      width = 0 ∨ height = 0 ∨ wordLimit ≤ width * height := by
  unfold Grid.new
  by_cases hzero : width = 0 ∨ height = 0
  · simp only [if_pos hzero, Except.error.injEq, exists_eq', true_iff]
    exact hzero.imp_right .inl
  · rw [if_neg hzero, if_neg (Nat.ne_of_gt hn)]
    rw [← or_assoc, or_iff_right hzero]
    split <;> simp_all

namespace Engine

def Leaves (ts : TileSet) (width height : Nat) (given : List Given) : Prop :=
  ∀ p, p.x < width → p.y < height → ∃ t < ts.size, Allows given p t

theorem Allows.mono {given given' : List Given} {p : Position} {t : TileId}
    (h : Allows given' p t) (hsub : ∀ x ∈ given, x ∈ given') : Allows given p t :=
  fun x hx => h x (hsub x hx)

theorem Leaves.mono {ts : TileSet} {width height : Nat} {given given' : List Given}
    (h : Leaves ts width height given') (hsub : ∀ x ∈ given, x ∈ given') :
    Leaves ts width height given := by
  intro p hx hy
  obtain ⟨t, ht, hall⟩ := h p hx hy
  exact ⟨t, ht, hall.mono hsub⟩

/-- The list has a bad restriction, and those before it leave every cell a tile. -/
def FindsBad (ts : TileSet) (width height : Nat) (given : List Given) : Prop :=
  ∃ before x rest, given = before ++ x :: rest ∧ ¬ Known ts width height [x] ∧
    Leaves ts width height before

section Lists

variable {ts : TileSet} {g : Grid} {rest : List Given} {x : Given}

/-- The rest of a list is looked at only if the first part emptied no cell. -/
theorem applyGiven_append (ts : TileSet) (g : Grid) (before rest : List Given) :
    applyGiven ts g (before ++ rest) =
      match applyGiven ts g before with
      | .ok (g', none) => applyGiven ts g' rest
      | stopped => stopped := by
  fun_induction applyGiven ts g before with
  | case1 g => rfl
  | case2 g p tiles more e hm => simp [applyGiven, hm]
  | case3 g p tiles more mask hm g' shrank hr ih => simpa [applyGiven, hm, hr] using ih
  | case4 g p tiles more mask hm q hr => simp [applyGiven, hm, hr]
  | case5 g p tiles more mask hm e hne hr => simp [applyGiven, hm, hr]

theorem applyGiven_cons_of_bad (h : ¬ Known ts g.width g.height [x]) :
    ∃ cause, applyGiven ts g (x :: rest) = .error cause := by
  obtain ⟨p, tiles⟩ := x
  cases hm : ts.mask tiles with
  | error e => exact ⟨.tileSet e, by simp [applyGiven, hm]⟩
  | ok mask =>
    have hknown : ∀ t ∈ tiles, t < ts.size := by
      intro t ht
      obtain ⟨hw, hhas⟩ := TileSet.mask_eq_ok hm
      exact hw ▸ Domain.lt_width_of_has ((hhas t).mpr ht)
    have hout : ¬ g.Inside p := by
      intro hp
      simp only [Known, List.forall_mem_singleton] at h
      exact h ⟨hp.1, hp.2, hknown⟩
    have hr : g.restrict p mask = .error (.outOfBounds p g.width g.height) := by
      simp [Grid.restrict, Grid.locate, Grid.index?, hout]
    exact ⟨.grid (.outOfBounds p g.width g.height), by simp [applyGiven, hm, hr]⟩

end Lists

section SetUps

variable {σ : Type} {ts : TileSet} {scheduler : Scheduler σ} {agenda : σ} {width height : Nat}
  {seed : UInt64} {given : List Given} {full g : Grid} {stop : Option Position}

theorem stop_eq_none_iff_leaves (hfull : Grid.new width height ts.size = .ok full)
    (happ : applyGiven ts full given = .ok (g, stop)) :
    stop = none ↔ Leaves ts width height given := by
  have hshape := Grid.shape_new hfull
  rw [stop_eq_none_iff (Grid.valid_new hfull) (Grid.chosen?_new hfull) happ]
  constructor
  · intro h p hx hy
    have hp := (Grid.inside_iff_of_shape hshape).mpr ⟨hx, hy⟩
    obtain ⟨t, hadm, hall⟩ := h p hp
    exact ⟨t, (Grid.admits_new hfull hp).mp hadm, hall⟩
  · intro h p hp
    obtain ⟨hx, hy⟩ := (Grid.inside_iff_of_shape hshape).mp hp
    obtain ⟨t, ht, hall⟩ := h p hx hy
    exact ⟨t, (Grid.admits_new hfull hp).mpr ht, hall⟩

theorem exists_applyGiven_of_known (hfull : Grid.new width height ts.size = .ok full)
    (h : Known ts width height given) : ∃ g stop, applyGiven ts full given = .ok (g, stop) := by
  have hshape := Grid.shape_new hfull
  refine exists_applyGiven (Grid.valid_new hfull) (congrArg (·.2.2) hshape) ?_
  intro p tiles hx
  obtain ⟨hpx, hpy, hknown⟩ := h (p, tiles) hx
  exact ⟨(Grid.inside_iff_of_shape hshape).mpr ⟨hpx, hpy⟩, hknown⟩

theorem known_iff : Known ts width height given ↔ ∀ x ∈ given, Known ts width height [x] := by
  simp [Known]

theorem exists_first_bad (h : ¬ Known ts width height given) : ∃ before x rest,
    given = before ++ x :: rest ∧ ¬ Known ts width height [x] ∧ Known ts width height before := by
  have hsome : (given.find? fun x => ¬ Known ts width height [x]).isSome := by
    rw [known_iff] at h
    push Not at h
    simpa [List.find?_isSome] using h
  obtain ⟨x, hx⟩ := Option.isSome_iff_exists.mp hsome
  obtain ⟨hbad, before, rest, rfl, hbefore⟩ := List.find?_eq_some_iff_append.mp hx
  refine ⟨before, x, rest, rfl, by simpa using hbad, known_iff.mpr ?_⟩
  intro y hy
  simpa using hbefore y hy

/-- The restrictions fail exactly if there is a bad one before which no cell was emptied. -/
theorem applyGiven_fails_iff (hfull : Grid.new width height ts.size = .ok full) :
    (∃ cause, applyGiven ts full given = .error cause) ↔ FindsBad ts width height given := by
  constructor
  · rintro ⟨cause, hfail⟩
    have hbad : ¬ Known ts width height given := by
      intro hknown
      obtain ⟨g, stop, hok⟩ := exists_applyGiven_of_known hfull hknown
      cases hok.symm.trans hfail
    obtain ⟨before, x, rest, rfl, hx, hbefore⟩ := exists_first_bad hbad
    obtain ⟨g, stop, happ⟩ := exists_applyGiven_of_known hfull hbefore
    refine ⟨before, x, rest, rfl, hx, (stop_eq_none_iff_leaves hfull happ).mp ?_⟩
    rw [applyGiven_append, happ] at hfail
    cases stop with
    | none => rfl
    | some p => contradiction
  · rintro ⟨before, x, rest, rfl, hx, hleaves⟩
    rw [applyGiven_append]
    rcases happ : applyGiven ts full before with cause | ⟨g, stop⟩
    · exact ⟨cause, rfl⟩
    · obtain rfl := (stop_eq_none_iff_leaves hfull happ).mpr hleaves
      have hshape := (narrows_applyGiven happ).shape_eq.trans (Grid.shape_new hfull)
      have hw : g.width = width := congrArg (·.1) hshape
      have hh : g.height = height := congrArg (·.2.1) hshape
      exact applyGiven_cons_of_bad (by rwa [hw, hh])

theorem start_fails_iff (scheduler : Scheduler σ) (agenda : σ) (seed : UInt64) :
    (∃ cause, ((flooding ts scheduler agenda).start width height seed given).result =
        .error cause) ↔
      (width = 0 ∨ height = 0 ∨ wordLimit ≤ width * height) ∨ FindsBad ts width height given := by
  rw [← Grid.new_eq_error_iff ts.size_pos]
  cases hfull : Grid.new width height ts.size with
  | error cause =>
    refine iff_of_true ⟨.grid cause, ?_⟩ (.inl ⟨cause, rfl⟩)
    simp [start, flooding, hfull]
  | ok full =>
    simp only [start_error_iff hfull, applyGiven_fails_iff hfull, reduceCtorEq, exists_false,
      false_or]

end SetUps

section Orders

variable {ts : TileSet} {width height : Nat} {given : List Given}

def sound (ts : TileSet) (width height : Nat) (given : List Given) : List Given :=
  given.filter fun x => Known ts width height [x]

theorem known_of_mem_sound {x : Given} (h : x ∈ sound ts width height given) :
    Known ts width height [x] :=
  of_decide_eq_true (List.mem_filter.mp h).2

theorem FindsBad.not_known (h : FindsBad ts width height given) : ¬ Known ts width height given := by
  obtain ⟨before, x, rest, rfl, hx, -⟩ := h
  exact fun hknown => hx (known_iff.mp hknown x (by simp))

/-- If the good restrictions leave every cell a tile, a bad one is found wherever it stands. -/
theorem findsBad_of_leaves_sound (h : Leaves ts width height (sound ts width height given))
    (hbad : ¬ Known ts width height given) : FindsBad ts width height given := by
  obtain ⟨before, x, rest, rfl, hx, hbefore⟩ := exists_first_bad hbad
  refine ⟨before, x, rest, rfl, hx, h.mono fun y hy => ?_⟩
  exact List.mem_filter.mpr
    ⟨List.mem_append_left _ hy, decide_eq_true (known_iff.mp hbefore y hy)⟩

/-- A bad one that stands behind all good ones is found only if they leave every cell a tile. -/
theorem leaves_sound_of_findsBad {bad : List Given}
    (h : FindsBad ts width height (sound ts width height given ++ bad)) :
    Leaves ts width height (sound ts width height given) := by
  obtain ⟨before, x, rest, hlist, hx, hleaves⟩ := h
  rcases List.append_eq_append_iff.mp hlist with ⟨more, hmore, -⟩ | ⟨more, hmore, htail⟩
  · exact hleaves.mono fun y hy => hmore ▸ List.mem_append_left _ hy
  · cases more with
    | nil => simpa [hmore] using hleaves
    | cons y more =>
      obtain ⟨rfl, -⟩ := List.cons.inj htail
      have hmem : x ∈ sound ts width height given := by simp [hmore]
      exact absurd (known_of_mem_sound hmem) hx

theorem findsBad_cons {x : Given} {rest : List Given} (hx : ¬ Known ts width height [x]) :
    FindsBad ts width height (x :: rest) :=
  ⟨[], x, rest, rfl, hx, fun _ _ _ => ⟨0, ts.size_pos, by simp [Allows]⟩⟩

theorem findsBad_perm_iff :
    (∀ given', given'.Perm given → (FindsBad ts width height given' ↔ FindsBad ts width height given))
      ↔ Known ts width height given ∨ Leaves ts width height (sound ts width height given) := by
  constructor
  · intro hsame
    by_contra hno
    obtain ⟨hbad, hempty⟩ := not_or.mp hno
    -- the bad ones first, and the good ones first
    have hperm : (sound ts width height given ++
        given.filter fun x => !decide (Known ts width height [x])).Perm given :=
      List.filter_append_perm _ given
    have hlast : ¬ FindsBad ts width height given :=
      fun h => hempty (leaves_sound_of_findsBad ((hsame _ hperm).mpr h))
    refine hlast ((hsame _ (List.perm_append_comm.trans hperm)).mp ?_)
    obtain ⟨before, x, rest, hlist, hx, -⟩ := exists_first_bad hbad
    have hmem : x ∈ given.filter fun x => !decide (Known ts width height [x]) :=
      List.mem_filter.mpr ⟨by simp [hlist], by simpa using hx⟩
    obtain ⟨y, ys, hys⟩ := List.exists_cons_of_ne_nil (List.ne_nil_of_mem hmem)
    have hy : ¬ Known ts width height [y] := by
      have hy' := (List.mem_filter.mp (hys ▸ List.mem_cons_self (a := y))).2
      simpa using hy'
    rw [hys]
    exact findsBad_cons hy
  · intro hcase given' hperm
    have hmem : ∀ x, x ∈ given' ↔ x ∈ given := fun _ => hperm.mem_iff
    have hknown : Known ts width height given' ↔ Known ts width height given := by
      simp only [Known, hmem]
    rcases hcase with hgood | hleaves
    · exact iff_of_false (fun h => h.not_known (hknown.mpr hgood)) (fun h => h.not_known hgood)
    · have hleaves' : Leaves ts width height (sound ts width height given') :=
        hleaves.mono fun x hx => (hperm.filter _).mem_iff.mp hx
      refine ⟨fun h => findsBad_of_leaves_sound hleaves (mt hknown.mpr h.not_known), fun h => ?_⟩
      exact findsBad_of_leaves_sound hleaves' (mt hknown.mp h.not_known)

end Orders

/-- A set-up fails if its size is improper or it has a bad restriction before which no cell was
emptied. This depends on the order of the restrictions unless the size is improper, all of them are
good, or the good ones leave every cell a tile. -/
theorem set_up_fails_iff {σ : Type} (ts : TileSet) (scheduler : Scheduler σ) (agenda : σ)
    (width height : Nat) (seed : UInt64) (given : List Given) :
    ((∃ cause, ((flooding ts scheduler agenda).start width height seed given).result =
        .error cause) ↔
      (width = 0 ∨ height = 0 ∨ wordLimit ≤ width * height) ∨ FindsBad ts width height given) ∧
    ((∀ given', given'.Perm given →
        ((∃ cause, ((flooding ts scheduler agenda).start width height seed given').result =
          .error cause) ↔
        ∃ cause, ((flooding ts scheduler agenda).start width height seed given).result =
          .error cause)) ↔
      (width = 0 ∨ height = 0 ∨ wordLimit ≤ width * height) ∨ Known ts width height given ∨
        Leaves ts width height (sound ts width height given)) := by
  refine ⟨start_fails_iff scheduler agenda seed, ?_⟩
  simp only [start_fails_iff]
  by_cases hsize : width = 0 ∨ height = 0 ∨ wordLimit ≤ width * height
  · simp [hsize]
  · simp only [hsize, false_or]
    exact findsBad_perm_iff

/-- A list for no tile empties its cell, and the restriction far outside that follows it is not
found; the other way round it is. -/
theorem bad_restriction_passed_over : ∃ s,
    ((standard .couple .firstMinimum).start 2 2 0 [(⟨0, 0⟩, []), (⟨9, 9⟩, [0])]).result = .ok s ∧
    s.status = .contradiction ⟨0, 0⟩ ∧ ¬ Known .couple 2 2 [(⟨0, 0⟩, []), (⟨9, 9⟩, [0])] ∧
    cause? ((standard .couple .firstMinimum).start 2 2 0
      [(⟨9, 9⟩, [0]), (⟨0, 0⟩, [])]).result = some (.grid (.outOfBounds ⟨9, 9⟩ 2 2)) := by
  obtain ⟨s, hs, hstatus⟩ : ∃ s, ((standard .couple .firstMinimum).start 2 2 0
      [(⟨0, 0⟩, []), (⟨9, 9⟩, [0])]).result = .ok s ∧ s.status = .contradiction ⟨0, 0⟩ :=
    exists_start (by decide +kernel)
  exact ⟨s, hs, hstatus, by decide, by decide +kernel⟩

end Engine

end EdgeTiling
