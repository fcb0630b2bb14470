import Rollout.Settings.Decode

/-!
# Which settings are accepted

Settings are accepted exactly if they are *usable* (`Rollout.Settings.Usable`): what is waited for is
looked at again after some time, no wait is asked to be longer than a day, and no two images have one
name. Settings that are not usable are refused with the first objection to them
(`Rollout.Settings.Objection`), in that order, and each of the three looks for the first place where
it applies. Every settings value is usable or objectionable, and never both; what reads a settings
file adds nothing to this, `Rollout.Settings.ofText_eq_ok_iff` and
`Rollout.Settings.ofText_eq_error_iff`.
-/

namespace Rollout.Settings

/-! ### Repeated names -/

/-- The first name that occurs again, and those before it. -/
theorem repeated?_eq_some_iff {seen names : List String} {name : String} :
    repeated? seen names = some name ↔
      ∃ before after, names = before ++ name :: after ∧ before.Nodup ∧
        (∀ n ∈ before, n ∉ seen) ∧ (name ∈ seen ∨ name ∈ before) := by
  induction names generalizing seen with
  | nil => simp [repeated?]
  | cons n rest ih =>
    rw [repeated?]
    by_cases hn : n ∈ seen
    · rw [if_pos (List.contains_iff_mem.mpr hn)]
      constructor
      · rintro ⟨⟩
        exact ⟨[], rest, rfl, List.nodup_nil, nofun, .inl hn⟩
      · rintro ⟨before, after, hnames, -, hfresh, -⟩
        rcases before with _ | ⟨b, before⟩
        · exact congrArg some (List.cons.inj hnames).1
        · obtain ⟨rfl, -⟩ := List.cons.inj hnames
          exact absurd hn (hfresh n List.mem_cons_self)
    · rw [if_neg (fun h => hn (List.contains_iff_mem.mp h)), ih]
      -- a name that has not been seen stands before all that repeats
      constructor
      · rintro ⟨before, after, rfl, hnodup, hfresh, hname⟩
        exact ⟨n :: before, after, rfl, by grind, by grind, by grind⟩
      · rintro ⟨before, after, hnames, hnodup, hfresh, hname⟩
        rcases before with _ | ⟨b, before⟩
        · obtain ⟨rfl, rfl⟩ := List.cons.inj hnames
          exact hname.elim (fun h => absurd h hn) nofun
        · obtain ⟨rfl, rfl⟩ := List.cons.inj hnames
          exact ⟨before, after, rfl, by grind, by grind, by grind⟩

/-- Nothing is repeated where all names differ. -/
theorem repeated?_eq_none_iff {seen names : List String} :
    repeated? seen names = none ↔ names.Nodup ∧ ∀ n ∈ names, n ∉ seen := by
  induction names generalizing seen with
  | nil => simp [repeated?]
  | cons n rest ih =>
    rw [repeated?]
    by_cases hn : n ∈ seen
    · rw [if_pos (List.contains_iff_mem.mpr hn)]
      exact ⟨nofun, fun h => absurd hn (h.2 n List.mem_cons_self)⟩
    · rw [if_neg (fun h => hn (List.contains_iff_mem.mp h)), ih]
      grind

/-! ### Usable settings -/

/-- The names of the images, in the order in which they are built. -/
def imageNames (s : Settings) : List String := s.images.workloads.map ImageSpec.name

/-- The longest time that a workload may be waited for: a day. -/
def day : Duration := .ofSeconds (24 * 60 * 60)

/-- **Settings with which a run can end well.** -/
structure Usable (s : Settings) : Prop where
  interval : 0 < s.readiness.pollInterval.nanos
  timeouts : ∀ c ∈ s.baseApp.workloads ++ s.agents.workloads, c.timeout.nanos ≤ day.nanos
  images : s.imageNames.Nodup

/-- **The first objection to settings**: the interval, then the first workload with too long a
timeout, those of the base application before those of the agents, then the first image whose name
has occurred before. -/
inductive Objection (s : Settings) : Failure → Prop
  | interval (h : s.readiness.pollInterval.nanos = 0) :
      Objection s ⟨1005, "readiness.poll_interval must be greater than zero",
        .configuration none none []⟩
  | timeout {before after : List Condition} {c : Condition}
      (hinterval : 0 < s.readiness.pollInterval.nanos)
      (hworkloads : s.baseApp.workloads ++ s.agents.workloads = before ++ c :: after)
      (hbefore : ∀ b ∈ before, b.timeout.nanos ≤ day.nanos)
      (hc : day.nanos < c.timeout.nanos) :
      Objection s ⟨1005, "Timeout for " ++ c.workload ++ " exceeds " ++ day.describe,
        .configuration none none []⟩
  | image {before after : List String} {name : String}
      (hinterval : 0 < s.readiness.pollInterval.nanos)
      (htimeouts : ∀ c ∈ s.baseApp.workloads ++ s.agents.workloads, c.timeout.nanos ≤ day.nanos)
      (hnames : s.imageNames = before ++ name :: after) (hbefore : before.Nodup)
      (hname : name ∈ before) :
      Objection s ⟨1005, "Image '" ++ name ++ "' is declared twice",
        .configuration none none []⟩

/-- As the operator is told of it. -/
example : day.describe = "1day" := by decide +kernel

variable {s : Settings} {f : Failure}

/-- The first workload with too long a timeout. -/
def overlong? (s : Settings) : Option Condition :=
  s.workloads.find? fun c => Condition.maxTimeout.nanos < c.timeout.nanos

theorem overlong?_eq_none_iff :
    s.overlong? = none ↔
      ∀ c ∈ s.baseApp.workloads ++ s.agents.workloads, c.timeout.nanos ≤ day.nanos := by
  simp only [overlong?, List.find?_eq_none, decide_eq_true_eq, Nat.not_lt]
  exact .rfl

theorem overlong?_eq_some_iff {c : Condition} :
    s.overlong? = some c ↔
      day.nanos < c.timeout.nanos ∧ ∃ before after,
        s.baseApp.workloads ++ s.agents.workloads = before ++ c :: after ∧
          ∀ b ∈ before, b.timeout.nanos ≤ day.nanos := by
  simp only [overlong?, List.find?_eq_some_iff_append, decide_eq_true_eq, Bool.not_eq_true',
    decide_eq_false_iff_not, Nat.not_lt]
  exact .rfl

/-- A violation by the three questions that are asked. -/
theorem violation?_eq (s : Settings) :
    s.violation? =
      if s.readiness.pollInterval.nanos = 0 then
        some (failure "readiness.poll_interval must be greater than zero")
      else
        match s.overlong? with
        | some c => some (failure ("Timeout for " ++ c.workload ++ " exceeds " ++ day.describe))
        | none =>
          (repeated? [] s.imageNames).map fun name =>
            failure ("Image '" ++ name ++ "' is declared twice") := by
  rw [violation?]
  rfl

theorem violation?_eq_none_iff : s.violation? = none ↔ s.Usable := by
  rw [violation?_eq]
  by_cases hinterval : s.readiness.pollInterval.nanos = 0
  · rw [if_pos hinterval]
    exact ⟨nofun, fun h => absurd hinterval (Nat.ne_of_gt h.interval)⟩
  · rw [if_neg hinterval]
    cases htimeouts : s.overlong? with
    | some c =>
      refine ⟨nofun, fun h => ?_⟩
      rw [overlong?_eq_none_iff.mpr h.timeouts] at htimeouts
      cases htimeouts
    | none =>
      rw [Option.map_eq_none_iff, repeated?_eq_none_iff]
      refine ⟨fun h => ⟨Nat.pos_of_ne_zero hinterval, ?_, h.1⟩, fun h => ⟨h.images, fun _ _ => nofun⟩⟩
      exact overlong?_eq_none_iff.mp htimeouts

theorem violation?_eq_some_iff : s.violation? = some f ↔ s.Objection f := by
  rw [violation?_eq]
  constructor
  · intro h
    split at h
    · rename_i hinterval
      cases h
      exact .interval hinterval
    · rename_i hinterval
      have hpositive := Nat.pos_of_ne_zero hinterval
      split at h
      · rename_i c htimeouts
        obtain ⟨hc, before, after, hworkloads, hbefore⟩ := overlong?_eq_some_iff.mp htimeouts
        cases h
        exact .timeout hpositive hworkloads hbefore hc
      · rename_i htimeouts
        obtain ⟨name, hname, rfl⟩ := Option.map_eq_some_iff.mp h
        obtain ⟨before, after, hnames, hbefore, -, hagain⟩ := repeated?_eq_some_iff.mp hname
        exact .image hpositive (overlong?_eq_none_iff.mp htimeouts) hnames hbefore
          (hagain.resolve_left nofun)
  · rintro (h | ⟨hinterval, hworkloads, hbefore, hc⟩ | ⟨hinterval, htimeouts, hnames, hbefore, hname⟩)
    · rw [if_pos h]
      rfl
    · rw [if_neg (Nat.ne_of_gt hinterval),
        overlong?_eq_some_iff.mpr ⟨hc, _, _, hworkloads, hbefore⟩]
      rfl
    · have hagain := repeated?_eq_some_iff.mpr
        ⟨_, _, hnames, hbefore, fun _ _ => List.not_mem_nil, .inr hname⟩
      rw [if_neg (Nat.ne_of_gt hinterval), overlong?_eq_none_iff.mpr htimeouts, hagain]
      rfl

theorem check_eq_ok_iff : s.check = .ok s ↔ s.Usable := by
  rw [← violation?_eq_none_iff, check]
  cases s.violation? <;> simp

theorem check_eq_error_iff : s.check = .error f ↔ s.Objection f := by
  rw [← violation?_eq_some_iff, check]
  cases s.violation? <;> simp

/-! ### Settings files -/

variable {text : String}

/-- **The settings that a text spells are accepted exactly if they are usable.** -/
theorem ofText_eq_ok_iff (hs : (Toml.parse? text).bind decode? = some s) :
    ofText text = .ok s ↔ s.Usable := by
  rw [← check_eq_ok_iff, ofText, hs]

/-- **They are refused exactly with the first objection to them.** -/
theorem ofText_eq_error_iff (hs : (Toml.parse? text).bind decode? = some s) :
    ofText text = .error f ↔ s.Objection f := by
  rw [← check_eq_error_iff, ofText, hs]

/-- What is accepted is what the text spells. -/
theorem usable_of_ofText (h : ofText text = .ok s) : s.Usable := by
  unfold ofText at h
  split at h
  · rename_i s' hs'
    have hsame : s'.violation? = none ∧ s' = s := by
      unfold check at h
      split at h
      · cases h
      · rename_i hnone
        exact ⟨hnone, Except.ok.inj h⟩
    obtain ⟨hnone, rfl⟩ := hsame
    exact violation?_eq_none_iff.mp hnone
  · cases h

theorem usable_builtIn : builtIn.Usable := check_eq_ok_iff.mp check_builtIn

end Rollout.Settings
