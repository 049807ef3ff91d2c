import EdgeTiling.App
import EdgeTiling.Proofs.StandardRun

/-! Which source decides a setting. The command line comes before the environment, the environment
before the file and the file before the default, for each setting by itself. What loses is not looked
at any further: a span of time that is written wrongly stops a run only if it is the one that
counts. -/

namespace EdgeTiling

namespace Settings

section Values

variable {α β : Type} {vs vs' : Values} {key : String} {read : Value → Option α} {x x' : Option α}

theorem lookup_filter (p : String → Bool) (vs : Values) (hkey : p key = true) :
    (vs.filter fun v => p v.1).lookup key = vs.lookup key := by
  induction vs with
  | nil => rfl
  | cons v rest ih =>
    obtain ⟨name, value⟩ := v
    by_cases hname : key = name
    · subst hname
      simp [hkey]
    · have hother : (key == name) = false := beq_eq_false_iff_ne.mpr hname
      rw [List.lookup_cons, hother, List.filter_cons]
      split
      · simp [List.lookup_cons, hother, ih]
      · simp [ih]

def winner (upper lower : Values) (key : String) : Option Value :=
  upper.lookup key <|> lower.lookup key

theorem lookup_overlay (upper lower : Values) (key : String) :
    (upper.overlay lower).lookup key = winner upper lower key := by
  unfold Values.overlay winner
  rw [List.lookup_append]
  cases h : upper.lookup key with
  | some v => rfl
  | none =>
    have hopen : (upper.lookup key).isNone = true := by rw [h, Option.isNone_none]
    rw [lookup_filter (fun name => (upper.lookup name).isNone) lower hopen]
    rfl

theorem field_eq_some_iff : field vs key read = some x ↔
    (vs.lookup key = none ∧ x = none) ∨
      ∃ v a, vs.lookup key = some v ∧ read v = some a ∧ x = some a := by
  unfold field
  split
  · next h => simp [h, eq_comm]
  · next v h => simp [h, Option.map_eq_some_iff, eq_comm]

theorem field_map (f : α → β) :
    field vs key (fun v => (read v).map f) = (field vs key read).map (Option.map f) := by
  unfold field
  split
  · rfl
  · simp [Option.map_map, Function.comp_def]

theorem field_congr (h : field vs key read = some x) (h' : field vs' key read = some x')
    (hsame : vs.lookup key = vs'.lookup key) : x = x' := by
  unfold field at h h'
  rw [hsame, h'] at h
  exact (Option.some.inj h).symm

end Values

section Table

def asSeed (v : Value) : Option UInt64 := (asNatural wordLimit v).map UInt64.ofNat

def asAttempts (v : Value) : Option UInt32 := (asNatural (twoTo 32) v).map UInt32.ofNat

def asSpan (v : Value) : Option Duration := (asText v).bind fun t => (Duration.parse t).toOption

/-- A setting: its name, what the command line gives for it, how a value from elsewhere is read,
what settings hold of it and what they hold if no source says anything. -/
structure Setting where
  key : String
  Carrier : Type
  given : Layer Duration → Option Carrier
  read : Value → Option Carrier
  held : Settings → Option Carrier
  fallback : Option Carrier

namespace Setting

variable {α : Type}

def always (key : String) (given : Layer Duration → Option α) (read : Value → Option α)
    (held : Settings → α) (fallback : α) : Setting :=
  ⟨key, α, given, read, fun s => some (held s), some fallback⟩

def optional (key : String) (given : Layer Duration → Option α) (read : Value → Option α)
    (held : Settings → Option α) : Setting :=
  ⟨key, α, given, read, held, none⟩

def width : Setting := always "width" (·.width) (asNatural wordLimit) (·.width) 20

def height : Setting := always "height" (·.height) (asNatural wordLimit) (·.height) 20

def attempts : Setting := always "attempts" (·.attempts) asAttempts (·.attempts) 1

def survey : Setting := optional "survey" (·.survey) (asNatural wordLimit) (·.survey)

def frameDelay : Setting :=
  always "frame_delay" (·.frameDelay) asSpan (·.frameDelay) (.ofMilliseconds 50)

def progressInterval : Setting :=
  optional "progress_interval" (·.progressInterval) asSpan (·.progressInterval)

def all : List Setting :=
  [always "catalog" (·.catalog) asText (·.catalog) "pipes", width, height,
    optional "seed" (·.seed) asSeed (·.seed), attempts,
    always "selection" (·.selection) (asChoice Selection.all Selection.name) (·.selection)
      .randomLowest,
    optional "output_path" (·.outputPath) asText (·.outputPath),
    always "output_format" (·.outputFormat) (asChoice GridFormat.all GridFormat.name)
      (·.outputFormat) .text,
    optional "trace_csv" (·.traceCsv) asText (·.traceCsv),
    always "visualization_mode" (·.mode) (asChoice Mode.all Mode.name) (·.mode) .none,
    frameDelay, progressInterval, survey,
    optional "survey_csv" (·.surveyCsv) asText (·.surveyCsv),
    always "log_level" (·.logLevel) (asChoice Level.all Level.name) (·.logLevel) .info,
    always "progress_log_level" (·.progressLogLevel) (asChoice progressLevels Level.name)
      (·.progressLogLevel) .info]

def spans : List Setting := [frameDelay, progressInterval]

theorem map_key_all : all.map key = keys := rfl

end Setting

end Table

section Deciding

variable {line : Layer Duration} {upper lower : Values}

/-- What a setting is according to the command line, the values in the environment and those in the
file: the first of them that says something decides. -/
inductive Setting.Decided (k : Setting) (line : Layer Duration) (upper lower : Values) :
    Option k.Carrier → Prop
  | line {a : k.Carrier} (given : k.given line = some a) : k.Decided line upper lower (some a)
  | environment {v : Value} {a : k.Carrier} (unset : k.given line = none)
      (found : upper.lookup k.key = some v) (reads : k.read v = some a) :
      k.Decided line upper lower (some a)
  | file {v : Value} {a : k.Carrier} (unset : k.given line = none)
      (silent : upper.lookup k.key = none) (found : lower.lookup k.key = some v)
      (reads : k.read v = some a) : k.Decided line upper lower (some a)
  | fallback (unset : k.given line = none) (silent : upper.lookup k.key = none)
      (missing : lower.lookup k.key = none) : k.Decided line upper lower k.fallback

structure Setting.Spoils (k : Setting) (line : Layer Duration) (upper lower : Values)
    (text : String) : Prop where
  unset : k.given line = none
  wins : winner upper lower k.key = some (.text text)
  invalid : ∀ d, Duration.parse text ≠ .ok d

namespace Setting

variable {k : Setting} {x y : Option k.Carrier}

theorem Decided.unique (hx : k.Decided line upper lower x) (hy : k.Decided line upper lower y) :
    x = y := by
  cases hx <;> cases hy <;> simp_all

theorem Decided.iff_eq (hx : k.Decided line upper lower x) :
    k.Decided line upper lower y ↔ y = x :=
  ⟨fun hy => hy.unique hx, fun h => h ▸ hx⟩

theorem decided_of_field (hunset : k.given line = none)
    (h : field (upper.overlay lower) k.key k.read = some x) :
    k.Decided line upper lower (x <|> k.fallback) := by
  rw [field_eq_some_iff, lookup_overlay, winner] at h
  cases hupper : upper.lookup k.key with
  | some v =>
    obtain ⟨hnone, -⟩ | ⟨v', a, hv, hread, rfl⟩ := h
    · simp [hupper] at hnone
    · obtain rfl : v = v' := by simpa [hupper] using hv
      exact .environment hunset hupper hread
  | none =>
    rw [hupper] at h
    obtain ⟨hmissing, rfl⟩ | ⟨v, a, hv, hread, rfl⟩ := h
    · exact .fallback hunset hupper hmissing
    · exact .file hunset hupper hv hread

/-- Taking the command line first and then what was read from elsewhere follows the order of the
sources. What was read matters only if the command line is silent. -/
theorem decided_of_orElse (h : k.given line = none →
      field (upper.overlay lower) k.key k.read = some x)
    (hy : (k.given line <|> x <|> k.fallback) = y) : k.Decided line upper lower y := by
  subst hy
  cases hgiven : k.given line with
  | some a => exact .line hgiven
  | none => exact decided_of_field hgiven (h hgiven)

section Forms

variable {α : Type} {key : String} {given : Layer Duration → Option α} {read : Value → Option α}
  {x : Option α} {s : Settings}

theorem decided_always {held : Settings → α} {fallback : α}
    (h : given line = none → field (upper.overlay lower) key read = some x)
    (hheld : (given line <|> x).getD fallback = held s) :
    (always key given read held fallback).Decided line upper lower
      ((always key given read held fallback).held s) := by
  have hsome : (given line <|> x <|> some fallback) = some (held s) := by
    rw [← hheld]
    cases given line <;> cases x <;> rfl
  exact decided_of_orElse h hsome

theorem decided_optional {held : Settings → Option α}
    (h : given line = none → field (upper.overlay lower) key read = some x)
    (hheld : (given line <|> x) = held s) :
    (optional key given read held).Decided line upper lower
      ((optional key given read held).held s) := by
  have hsame : (given line <|> x <|> none) = held s := by
    rw [← hheld]
    cases given line <;> cases x <;> rfl
  exact decided_of_orElse h hsame

end Forms

end Setting

end Deciding

section Reading

variable {vs : Values} {below : Layer String}

structure Describes (vs : Values) (l : Layer String) : Prop where
  catalog : field vs "catalog" asText = some l.catalog
  width : field vs "width" (asNatural wordLimit) = some l.width
  height : field vs "height" (asNatural wordLimit) = some l.height
  seed : field vs "seed" asSeed = some l.seed
  attempts : field vs "attempts" asAttempts = some l.attempts
  selection : field vs "selection" (asChoice Selection.all Selection.name) = some l.selection
  outputPath : field vs "output_path" asText = some l.outputPath
  outputFormat : field vs "output_format" (asChoice GridFormat.all GridFormat.name) =
    some l.outputFormat
  traceCsv : field vs "trace_csv" asText = some l.traceCsv
  mode : field vs "visualization_mode" (asChoice Mode.all Mode.name) = some l.mode
  frameDelay : field vs "frame_delay" asText = some l.frameDelay
  progressInterval : field vs "progress_interval" asText = some l.progressInterval
  survey : field vs "survey" (asNatural wordLimit) = some l.survey
  surveyCsv : field vs "survey_csv" asText = some l.surveyCsv
  logLevel : field vs "log_level" (asChoice Level.all Level.name) = some l.logLevel
  progressLogLevel : field vs "progress_log_level" (asChoice progressLevels Level.name) =
    some l.progressLogLevel

theorem describes_of_layerOf (h : layerOf vs = some below) : Describes vs below := by
  unfold layerOf at h
  split at h
  · cases h
  · obtain ⟨_, hcatalog, h⟩ := Option.bind_eq_some_iff.mp h
    obtain ⟨_, hwidth, h⟩ := Option.bind_eq_some_iff.mp h
    obtain ⟨_, hheight, h⟩ := Option.bind_eq_some_iff.mp h
    obtain ⟨seed, hseed, h⟩ := Option.bind_eq_some_iff.mp h
    obtain ⟨attempts, hattempts, h⟩ := Option.bind_eq_some_iff.mp h
    obtain ⟨_, hselection, h⟩ := Option.bind_eq_some_iff.mp h
    obtain ⟨_, hpath, h⟩ := Option.bind_eq_some_iff.mp h
    obtain ⟨_, hformat, h⟩ := Option.bind_eq_some_iff.mp h
    obtain ⟨_, htrace, h⟩ := Option.bind_eq_some_iff.mp h
    obtain ⟨_, hmode, h⟩ := Option.bind_eq_some_iff.mp h
    obtain ⟨_, hdelay, h⟩ := Option.bind_eq_some_iff.mp h
    obtain ⟨_, hinterval, h⟩ := Option.bind_eq_some_iff.mp h
    obtain ⟨_, hsurvey, h⟩ := Option.bind_eq_some_iff.mp h
    obtain ⟨_, htable, h⟩ := Option.bind_eq_some_iff.mp h
    obtain ⟨_, hlevel, h⟩ := Option.bind_eq_some_iff.mp h
    obtain ⟨_, hprogress, h⟩ := Option.bind_eq_some_iff.mp h
    obtain rfl := Option.some.inj h
    have hword : field vs "seed" asSeed = some (seed.map UInt64.ofNat) := by
      unfold asSeed
      rw [field_map, hseed, Option.map_some]
    have hcount : field vs "attempts" asAttempts = some (attempts.map UInt32.ofNat) := by
      unfold asAttempts
      rw [field_map, hattempts, Option.map_some]
    exact ⟨hcatalog, hwidth, hheight, hword, hcount, hselection, hpath, hformat, htrace, hmode,
      hdelay, hinterval, hsurvey, htable, hlevel, hprogress⟩

end Reading

section Spans

variable {vs upper lower : Values} {key : String} {given d : Option Duration} {text : Option String}
  {e : SettingsError}

theorem field_asText_iff {t : String} :
    field vs key asText = some (some t) ↔ vs.lookup key = some (.text t) := by
  have hread : ∀ v, asText v = some t ↔ v = .text t := by
    intro v
    cases v <;> simp [asText]
  simp [field_eq_some_iff, hread]

/-- A span of time fails by the text that counts, if the command line gives none. -/
theorem duration_eq_error (hfield : field (upper.overlay lower) key asText = some text)
    (h : duration key given text = .error e) :
    given = none ∧ ∃ t cause, winner upper lower key = some (.text t) ∧
      Duration.parse t = .error cause ∧ (e = .invalidDuration key t cause ∨ e = .fatal) := by
  unfold duration at h
  split at h
  · cases h
  · cases h
  · next t =>
    rw [field_asText_iff, lookup_overlay] at hfield
    split at h
    · cases h
    · next hparse => exact ⟨rfl, t, _, hfield, hparse, .inr (Except.error.inj h).symm⟩
    · next hparse => exact ⟨rfl, t, _, hfield, hparse, .inl (Except.error.inj h).symm⟩

theorem exists_duration_eq_error {t : String}
    (hfield : field (upper.overlay lower) key asText = some text)
    (hwins : winner upper lower key = some (.text t)) (ht : ∀ d, Duration.parse t ≠ .ok d) :
    ∃ e, duration key none text = .error e := by
  rw [← lookup_overlay, ← field_asText_iff, hfield] at hwins
  obtain rfl := Option.some.inj hwins
  simp only [duration]
  cases hparse : Duration.parse t with
  | ok d => exact absurd hparse (ht d)
  | error flaw => cases flaw <;> exact ⟨_, rfl⟩

theorem duration_eq_ok (hfield : field vs key asText = some text)
    (h : duration key given text = .ok d) :
    (given <|> d) = d ∧ (given = none → field vs key asSpan = some d) := by
  unfold duration at h
  split at h
  · next a text =>
    obtain rfl := Except.ok.inj h
    exact ⟨rfl, nofun⟩
  · obtain rfl := Except.ok.inj h
    refine ⟨rfl, fun _ => ?_⟩
    rw [field_eq_some_iff] at hfield ⊢
    exact .inl ⟨by simpa using hfield, rfl⟩
  · next t =>
    split at h
    · next a hparse =>
      obtain rfl := Except.ok.inj h
      refine ⟨rfl, fun _ => ?_⟩
      rw [field_eq_some_iff] at hfield ⊢
      obtain ⟨-, hnone⟩ | ⟨v, t', hv, hread, ht⟩ := hfield
      · cases hnone
      · obtain rfl := Option.some.inj ht
        exact .inr ⟨v, a, hv, by simp [asSpan, hread, hparse, Except.toOption], rfl⟩
    · cases h
    · cases h

end Spans

section Resolving

open Setting

variable {line : Layer Duration} {upper lower upper' lower' : Values} {below below' : Layer String}
  {s : Settings} {e : SettingsError}

theorem combine_eq_error_iff : combine line below = .error e ↔
    duration "frame_delay" line.frameDelay below.frameDelay = .error e ∨
      ∃ d, duration "frame_delay" line.frameDelay below.frameDelay = .ok d ∧
        duration "progress_interval" line.progressInterval below.progressInterval = .error e := by
  unfold combine
  cases duration "frame_delay" line.frameDelay below.frameDelay with
  | error e' => simp [bind, Except.bind]
  | ok d =>
    cases duration "progress_interval" line.progressInterval below.progressInterval with
    | error e' => simp [bind, Except.bind]
    | ok d' => simp [bind, Except.bind, pure, Except.pure]

theorem combine_eq_ok (h : combine line below = .ok s) : ∃ delay interval,
    duration "frame_delay" line.frameDelay below.frameDelay = .ok delay ∧
      duration "progress_interval" line.progressInterval below.progressInterval = .ok interval := by
  cases hdelay : duration "frame_delay" line.frameDelay below.frameDelay with
  | error e =>
    rw [combine_eq_error_iff.mpr (.inl hdelay)] at h
    cases h
  | ok d =>
    cases hinterval :
        duration "progress_interval" line.progressInterval below.progressInterval with
    | error e =>
      rw [combine_eq_error_iff.mpr (.inr ⟨d, hdelay, hinterval⟩)] at h
      cases h
    | ok d' => exact ⟨d, d', rfl, rfl⟩

/-- Settings that were put together follow the order of the sources in every part. -/
theorem decided_of_combine (hb : Describes (upper.overlay lower) below)
    (hs : combine line below = .ok s) :
    ∀ k ∈ Setting.all, k.Decided line upper lower (k.held s) := by
  obtain ⟨delay, interval, hdelay, hinterval⟩ := combine_eq_ok hs
  obtain ⟨hdelaySelf, hdelayField⟩ := duration_eq_ok hb.frameDelay hdelay
  obtain ⟨hintervalSelf, hintervalField⟩ := duration_eq_ok hb.progressInterval hinterval
  unfold combine at hs
  rw [hdelay, hinterval] at hs
  obtain rfl := Except.ok.inj hs
  -- Only for the two spans is what was read not what is taken: a text has become a duration.
  simp only [Setting.all, List.forall_mem_cons]
  exact ⟨decided_always (fun _ => hb.catalog) rfl, decided_always (fun _ => hb.width) rfl,
    decided_always (fun _ => hb.height) rfl, decided_optional (fun _ => hb.seed) rfl,
    decided_always (fun _ => hb.attempts) rfl, decided_always (fun _ => hb.selection) rfl,
    decided_optional (fun _ => hb.outputPath) rfl, decided_always (fun _ => hb.outputFormat) rfl,
    decided_optional (fun _ => hb.traceCsv) rfl, decided_always (fun _ => hb.mode) rfl,
    decided_always hdelayField (by rw [hdelaySelf]),
    decided_optional hintervalField hintervalSelf, decided_optional (fun _ => hb.survey) rfl,
    decided_optional (fun _ => hb.surveyCsv) rfl, decided_always (fun _ => hb.logLevel) rfl,
    decided_always (fun _ => hb.progressLogLevel) rfl, nofun⟩

theorem spoils_of_combine (hb : Describes (upper.overlay lower) below)
    (he : combine line below = .error e) :
    ∃ k ∈ spans, ∃ t cause, k.Spoils line upper lower t ∧ Duration.parse t = .error cause ∧
      (e = .invalidDuration k.key t cause ∨ e = .fatal) := by
  obtain hdelay | ⟨-, -, hinterval⟩ := combine_eq_error_iff.mp he
  · obtain ⟨hunset, t, cause, hwins, hparse, hform⟩ := duration_eq_error hb.frameDelay hdelay
    exact ⟨Setting.frameDelay, by simp [spans], t, cause, ⟨hunset, hwins, by simp [hparse]⟩, hparse,
      hform⟩
  · obtain ⟨hunset, t, cause, hwins, hparse, hform⟩ :=
      duration_eq_error hb.progressInterval hinterval
    exact ⟨Setting.progressInterval, by simp [spans], t, cause,
      ⟨hunset, hwins, by simp [hparse]⟩, hparse, hform⟩

theorem exists_combine_eq_error (hb : Describes (upper.overlay lower) below) {k : Setting}
    (hk : k ∈ spans) {t : String} (h : k.Spoils line upper lower t) :
    ∃ e, combine line below = .error e := by
  obtain ⟨hunset, hwins, hinvalid⟩ := h
  simp only [spans, List.mem_cons, List.not_mem_nil, or_false] at hk
  obtain rfl | rfl := hk
  · obtain ⟨e, he⟩ := exists_duration_eq_error hb.frameDelay hwins hinvalid
    have hunset : line.frameDelay = none := hunset
    exact ⟨e, combine_eq_error_iff.mpr (.inl (hunset ▸ he))⟩
  · obtain ⟨e, he⟩ := exists_duration_eq_error hb.progressInterval hwins hinvalid
    have hunset : line.progressInterval = none := hunset
    cases hdelay : duration "frame_delay" line.frameDelay below.frameDelay with
    | error e' => exact ⟨e', combine_eq_error_iff.mpr (.inl hdelay)⟩
    | ok d => exact ⟨e, combine_eq_error_iff.mpr (.inr ⟨d, hdelay, hunset ▸ he⟩)⟩

theorem isSome_fault?_iff : s.fault?.isSome = true ↔
    s.width = 0 ∨ s.height = 0 ∨ s.attempts = 0 ∨ s.survey = some 0 := by
  unfold fault?
  grind

/-- The sources ask for nothing where there has to be something. -/
def Void (line : Layer Duration) (upper lower : Values) : Prop :=
  Setting.width.Decided line upper lower (some (0 : Nat)) ∨
    Setting.height.Decided line upper lower (some (0 : Nat)) ∨
    Setting.attempts.Decided line upper lower (some (0 : UInt32)) ∨
    Setting.survey.Decided line upper lower (some (0 : Nat))

theorem void_iff (hb : Describes (upper.overlay lower) below) (hs : combine line below = .ok s) :
    Void line upper lower ↔
      s.width = 0 ∨ s.height = 0 ∨ s.attempts = 0 ∨ s.survey = some 0 := by
  have hall := decided_of_combine hb hs
  have hwidth := (hall Setting.width (by simp [all])).iff_eq (y := some (0 : Nat))
  have hheight := (hall Setting.height (by simp [all])).iff_eq (y := some (0 : Nat))
  have hattempts := (hall Setting.attempts (by simp [all])).iff_eq (y := some (0 : UInt32))
  have hsurvey := (hall Setting.survey (by simp [all])).iff_eq (y := some (0 : Nat))
  unfold Void
  rw [hwidth, hheight, hattempts, hsurvey]
  simp [Setting.width, Setting.height, Setting.attempts, Setting.survey, always, Setting.optional,
    eq_comm]

theorem resolve_eq_ok (h : resolve line below = .ok s) : combine line below = .ok s ∧
    ¬ (s.width = 0 ∨ s.height = 0 ∨ s.attempts = 0 ∨ s.survey = some 0) := by
  unfold resolve at h
  cases hs : combine line below with
  | error e =>
    rw [hs] at h
    cases h
  | ok s' =>
    rw [hs] at h
    cases hfault : s'.fault? with
    | some e => simp [bind, Except.bind, hfault] at h
    | none =>
      obtain rfl : s' = s := by simpa [bind, Except.bind, hfault, pure, Except.pure] using h
      refine ⟨rfl, ?_⟩
      rw [← isSome_fault?_iff, hfault]
      exact Bool.false_ne_true

theorem resolve_eq_error_iff : resolve line below = .error e ↔
    combine line below = .error e ∨ ∃ s, combine line below = .ok s ∧ s.fault? = some e := by
  unfold resolve
  cases combine line below with
  | error e' => simp [bind, Except.bind]
  | ok s => cases hfault : s.fault? <;> simp [bind, Except.bind, hfault, pure, Except.pure]

theorem exists_resolve_eq_error_iff (hb : Describes (upper.overlay lower) below) :
    (∃ e, resolve line below = .error e) ↔
      (∃ k ∈ spans, ∃ t, k.Spoils line upper lower t) ∨ Void line upper lower := by
  constructor
  · rintro ⟨e, he⟩
    obtain hspan | ⟨s, hs, hfault⟩ := resolve_eq_error_iff.mp he
    · obtain ⟨k, hk, t, -, hspoils, -⟩ := spoils_of_combine hb hspan
      exact .inl ⟨k, hk, t, hspoils⟩
    · right
      rw [void_iff hb hs, ← isSome_fault?_iff, hfault]
      rfl
  · rintro (⟨k, hk, t, hspoils⟩ | hvoid)
    · obtain ⟨e, he⟩ := exists_combine_eq_error hb hk hspoils
      exact ⟨e, resolve_eq_error_iff.mpr (.inl he)⟩
    · cases hs : combine line below with
      | error e => exact ⟨e, resolve_eq_error_iff.mpr (.inl hs)⟩
      | ok s =>
        have hfault : s.fault?.isSome = true := isSome_fault?_iff.mpr ((void_iff hb hs).mp hvoid)
        obtain ⟨e, he⟩ := Option.isSome_iff_exists.mp hfault
        exact ⟨e, resolve_eq_error_iff.mpr (.inr ⟨s, hs, he⟩)⟩

theorem orElse_congr {α : Type} {vs vs' : Values} {key : String} {read : Value → Option α}
    {given x x' : Option α} (h : field vs key read = some x) (h' : field vs' key read = some x')
    (hsame : given = none → vs.lookup key = vs'.lookup key) : (given <|> x) = (given <|> x') := by
  cases given with
  | some a => rfl
  | none => rw [field_congr h h' (hsame rfl)]

/-- Values that lose have no part in the settings. -/
theorem combine_congr (hb : Describes (upper.overlay lower) below)
    (hb' : Describes (upper'.overlay lower') below')
    (hsame : ∀ k ∈ all, k.given line = none →
      winner upper lower k.key = winner upper' lower' k.key) :
    combine line below = combine line below' := by
  simp only [all, Setting.width, Setting.height, Setting.attempts, Setting.survey,
    Setting.frameDelay, Setting.progressInterval, always, Setting.optional, List.forall_mem_cons,
    ← lookup_overlay] at hsame
  obtain ⟨hcatalog, hwidth, hheight, hseed, hattempts, hselection, hpath, hformat, htrace, hmode,
    hdelay, hinterval, hsurvey, htable, hlevel, hprogress, -⟩ := hsame
  have hdelays : duration "frame_delay" line.frameDelay below.frameDelay =
      duration "frame_delay" line.frameDelay below'.frameDelay := by
    cases hgiven : line.frameDelay with
    | some d => rfl
    | none => rw [field_congr hb.frameDelay hb'.frameDelay (hdelay hgiven)]
  have hintervals : duration "progress_interval" line.progressInterval below.progressInterval =
      duration "progress_interval" line.progressInterval below'.progressInterval := by
    cases hgiven : line.progressInterval with
    | some d => rfl
    | none => rw [field_congr hb.progressInterval hb'.progressInterval (hinterval hgiven)]
  unfold combine
  rw [hdelays, hintervals]
  simp only [orElse_congr hb.catalog hb'.catalog hcatalog, orElse_congr hb.width hb'.width hwidth,
    orElse_congr hb.height hb'.height hheight, orElse_congr hb.seed hb'.seed hseed,
    orElse_congr hb.attempts hb'.attempts hattempts,
    orElse_congr hb.selection hb'.selection hselection,
    orElse_congr hb.outputPath hb'.outputPath hpath,
    orElse_congr hb.outputFormat hb'.outputFormat hformat,
    orElse_congr hb.traceCsv hb'.traceCsv htrace, orElse_congr hb.mode hb'.mode hmode,
    orElse_congr hb.survey hb'.survey hsurvey, orElse_congr hb.surveyCsv hb'.surveyCsv htable,
    orElse_congr hb.logLevel hb'.logLevel hlevel,
    orElse_congr hb.progressLogLevel hb'.progressLogLevel hprogress]

end Resolving

end Settings

namespace App

open Settings
open Run (run_bind_eq)

variable {line : CommandLine} {host : Session} {upper lower : Values}

theorem keys?_of_splitOn {name key : String}
    (hmark : ((Text.trim name).map Char.toLower).startsWith Environment.mark = true)
    (hkey : Text.trim (String.ofList (((Text.trim name).map Char.toLower).toList.drop
      Environment.mark.length)) = key)
    (hsplit : key.splitOn "." = [key]) (hne : key ≠ "") :
    Environment.keys? name = some [key] := by
  simp only [Environment.keys?, hmark, hkey, hsplit, if_true]
  simp [hne]

structure Gathers (line : CommandLine) (host : Session) (upper lower : Values) : Prop where
  environment : Environment.values? host.environment = some upper
  file : ((namedValues line : StateM Session _).run host).1 = .ok (some lower)
  extracts : (layerOf (upper.overlay lower)).isSome = true

theorem run_exists? (path : Path) (host : Session) :
    (Host.exists? path : StateM Session _).run host = (host.files.exists? path, host) :=
  rfl

theorem run_isFile? (path : Path) (host : Session) :
    (Host.isFile? path : StateM Session _).run host = (host.files.isFile? path, host) :=
  rfl

theorem run_read (path : Path) (host : Session) :
    (Host.read path : StateM Session _).run host = (host.files.read path, host) :=
  rfl

theorem run_environment (host : Session) :
    (Host.environment : StateM Session _).run host = (host.environment, host) :=
  rfl

theorem run_fileValues (path : Path) (host : Session) :
    ((fileValues path : StateM Session _).run host).2 = host := by
  unfold fileValues
  rw [run_bind_eq (run_exists? path host)]
  split
  · rfl
  · rw [run_bind_eq (run_isFile? path host)]
    split
    · rfl
    · rw [run_bind_eq (run_read path host)]
      split <;> rfl

theorem fileValues_of_find {path : Path} {text : String}
    (h : host.files.find path = .ok (.file (some text))) :
    ((fileValues path : StateM Session _).run host).1 = .ok (Toml.values? text) := by
  have hexists : host.files.exists? path = true := by
    rw [Files.exists?, h]
    rfl
  have hfile : host.files.isFile? path = true := by
    rw [Files.isFile?, h]
  have hread : host.files.read path = .ok text := by
    rw [Files.read, h]
    rfl
  unfold fileValues
  rw [run_bind_eq (run_exists? path host), hexists, if_neg (by decide),
    run_bind_eq (run_isFile? path host), hfile, if_neg (by decide),
    run_bind_eq (run_read path host), hread]
  rfl

theorem run_namedValues (line : CommandLine) (host : Session) :
    ((namedValues line : StateM Session _).run host).2 = host := by
  unfold namedValues
  cases line.config with
  | some path => exact run_fileValues path host
  | none => rfl

theorem Gathers.run_settingsFor (h : Gathers line host upper lower) : ∃ below,
    Describes (upper.overlay lower) below ∧
      ((settingsFor line : StateM Session _).run host).1 = resolve line.layer below := by
  obtain ⟨below, hbelow⟩ := Option.isSome_iff_exists.mp h.extracts
  have hlayer : layerBelow (some lower) host.environment = .ok below := by
    simp only [layerBelow, h.environment, hbelow]
  have hfile : (namedValues line : StateM Session _).run host = (.ok (some lower), host) :=
    Prod.ext h.file (run_namedValues line host)
  refine ⟨below, describes_of_layerOf hbelow, ?_⟩
  unfold settingsFor
  rw [run_bind_eq hfile]
  dsimp only
  rw [run_bind_eq (run_environment host)]
  rw [hlayer]
  cases hresolve : resolve line.layer below with
  | error e =>
    simp only [hresolve]
    rfl
  | ok s =>
    -- A warning is recorded before the settings are returned.
    simp only [hresolve]
    cases s.warning? <;> rfl

theorem run_seedFor (s : Settings) (host : Session) :
    ((seedFor s : StateM Session _).run host).1 = s.seed.getD host.seed := by
  unfold seedFor
  cases s.seed <;> rfl

namespace Overruled

def commandLine : CommandLine := { layer := { attempts := some 2 }, config := some "c" }

/-- A file `c` with the given lines, and an environment that knows better about two settings. -/
def session (text : String) : Session :=
  { files := { nodes := [(["c"], .file (some text))] }
    environment := [("EDGEWAVE_HEIGHT", "11"), ("EDGEWAVE_FRAME_DELAY", "5ms")] }

theorem find_session (text : String) :
    (session text).files.find "c" = .ok (.file (some text)) := by
  have hsplit : "c".splitOn "/" = ["c"] := by simp +decide [String.splitOn, String.splitOnAux]
  obtain ⟨hplace, hending⟩ := (session text).files.place?_of_splitOn hsplit (by decide)
    (by decide +kernel) (by decide +kernel) (by decide +kernel)
  unfold Files.find
  rw [Files.place?_eq_some.mp hplace]
  change (if _ = Path.Ending.slash then _ else _) = _
  rw [if_neg hending]
  rfl

def environment : Values := [("frame_delay", .text "5ms"), ("height", .integer 11)]

theorem values?_session (text : String) :
    Environment.values? (session text).environment = some environment := by
  have hheight : Environment.keys? "EDGEWAVE_HEIGHT" = some ["height"] :=
    keys?_of_splitOn (by decide +kernel) (by decide +kernel)
      (by simp +decide [String.splitOn, String.splitOnAux]) (by decide)
  have hdelay : Environment.keys? "EDGEWAVE_FRAME_DELAY" = some ["frame_delay"] :=
    keys?_of_splitOn (by decide +kernel) (by decide +kernel)
      (by simp +decide [String.splitOn, String.splitOnAux]) (by decide)
  have heleven : Environment.valueOf "11" = some (.integer 11) := by decide +kernel
  have hspan : Environment.valueOf "5ms" = some (.text "5ms") := by decide +kernel
  simp [Environment.values?, session, hheight, hdelay, heleven, hspan, Environment.setting?,
    environment]

theorem gathers {text : String} {lower : Values} (h : Toml.values? text = some lower)
    (hextracts : (layerOf (environment.overlay lower)).isSome = true) :
    Gathers commandLine (session text) environment lower := by
  refine ⟨values?_session text, ?_, hextracts⟩
  rw [← h]
  exact fileValues_of_find (find_session text)

/-- A file that is wrong about two settings. -/
def file : Values := [("width", .integer 8), ("height", .integer 0), ("frame_delay", .text "soon")]

theorem decided_settings :
    Setting.width.Decided commandLine.layer environment file (some (8 : Nat)) ∧
    Setting.height.Decided commandLine.layer environment file (some (11 : Nat)) ∧
    Setting.attempts.Decided commandLine.layer environment file (some (2 : UInt32)) ∧
    Setting.frameDelay.Decided commandLine.layer environment file
      (some (Duration.ofMilliseconds 5)) ∧
    Setting.survey.Decided commandLine.layer environment file none := by
  have hspan : asSpan (.text "5ms") = some (.ofMilliseconds 5) := by decide +kernel
  exact ⟨.file rfl rfl rfl rfl, .environment rfl rfl rfl, .line rfl, .environment rfl rfl hspan,
    .fallback rfl rfl rfl⟩

theorem not_void : ¬ Void commandLine.layer environment file := by
  obtain ⟨hwidth, hheight, hattempts, -, hsurvey⟩ := decided_settings
  rintro (hzero | hzero | hzero | hzero)
  · cases hzero.unique hwidth
  · cases hzero.unique hheight
  · cases hzero.unique hattempts
  · cases hzero.unique hsurvey

theorem not_spoils {k : Setting} (hk : k ∈ Setting.spans) (text : String) :
    ¬ k.Spoils commandLine.layer environment file text := by
  rintro ⟨-, hwins, hinvalid⟩
  simp only [Setting.spans, List.mem_cons, List.not_mem_nil, or_false] at hk
  obtain rfl | rfl := hk
  · obtain rfl : "5ms" = text := by
      simpa [winner, environment, Setting.frameDelay, Setting.always, List.lookup_cons] using hwins
    exact hinvalid (.ofMilliseconds 5) (by decide +kernel)
  · cases hwins

end Overruled

section Overruling

open Overruled

end Overruling

end App

end EdgeTiling
