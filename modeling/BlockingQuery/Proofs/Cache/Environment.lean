import BlockingQuery.Cache.Environment
import BlockingQuery.Proofs.OrderedMap
import Mathlib.Data.List.TakeWhile

/-!
# What variables say of the settings of a cache

A configuration consists of ten settings (`Config.ofSettings_get`), and each has a variable of its
own. The variables are read in the order of `Setting.all`, and the first one that is refused is all
that is told of (`Config.ofEnvironment_eq`). If none is, each setting is what its own variable says,
and what it was before where that says nothing. No other variable is looked at, and the order of the
variables makes no difference (`Config.ofEnvironment_iff`).
-/

namespace BlockingQuery

open Text

/-! ## Variables -/

/-- A text is trimmed to nothing just if all of it is blank. -/
theorem Text.trim_eq_nil_iff {cs : List Char} : trim cs = [] ↔ ∀ c ∈ cs, isBlank c = true := by
  rw [trim, List.reverse_eq_nil_iff, List.dropWhile_eq_nil_iff]
  constructor
  · intro h
    -- What is left when the front is trimmed begins with no blank.
    have hnil : cs.dropWhile isBlank = [] := by
      cases hrest : cs.dropWhile isBlank with
      | nil => rfl
      | cons c rest =>
        have hblank : isBlank c = true := h c (by simp [hrest])
        have hhead := List.head?_dropWhile_not isBlank cs
        rw [hrest, List.head?_cons] at hhead
        exact absurd hblank (by simpa using hhead)
    exact List.dropWhile_eq_nil_iff.1 hnil
  · intro h c hc
    exact h c ((List.dropWhile_sublist _).mem (List.mem_reverse.1 hc))

namespace Environment

/-- A variable is set, and not only to blanks. -/
def Says (env : Environment) (name value : String) : Prop :=
  (name, value) ∈ env.entries ∧ ∃ c ∈ value.toList, isBlank c = false

/-- The value of a variable that says something. -/
theorem value?_eq_some_iff {env : Environment} {name value : String} :
    env.value? name = some value ↔ env.Says name value := by
  rw [value?, Option.filter_eq_some_iff, OrderedMap.lookup?_eq_some_iff, Says]
  refine and_congr_right fun _ => ?_
  rw [Bool.not_eq_true', List.isEmpty_eq_false_iff, ne_eq, trim_eq_nil_iff]
  simp only [not_forall, Bool.not_eq_true, exists_prop]

/-- A value means yes: without the blanks around it and in small letters it is one of four words. -/
def Affirms (value : String) : Prop :=
  lower (trimmed value) = "1" ∨ lower (trimmed value) = "true" ∨
    lower (trimmed value) = "yes" ∨ lower (trimmed value) = "on"

instance (value : String) : Decidable (Affirms value) :=
  inferInstanceAs (Decidable (_ ∨ _ ∨ _ ∨ _))

/-- The words for yes are those four. -/
@[simp] theorem contains_affirmative (value : String) :
    affirmative.contains (lower (trimmed value)) = decide (Affirms value) := by
  rw [affirmative, Bool.eq_iff_iff, List.contains_iff_mem, decide_eq_true_iff, Affirms]
  simp only [List.mem_cons, List.not_mem_nil, or_false]

/-- A flag is set if its variable means yes, not set if it says anything else, and as it was if it
says nothing. -/
theorem flag_eq (env : Environment) (name : String) (otherwise : Bool) :
    env.flag name otherwise =
      ((env.value? name).bind fun value => some (decide (Affirms value))).getD otherwise := by
  unfold flag
  cases env.value? name with
  | none => rfl
  | some value => simp only [Option.bind_some, Option.getD_some, contains_affirmative]

/-- A variable says nothing. -/
theorem value?_eq_none_iff {env : Environment} {name : String} :
    env.value? name = none ↔ ∀ value, ¬env.Says name value := by
  simp only [Option.eq_none_iff_forall_ne_some, ne_eq, value?_eq_some_iff]

/-- Variables with the same entries say the same. -/
theorem value?_congr {env env' : Environment} {name : String}
    (h : ∀ value, (name, value) ∈ env'.entries ↔ (name, value) ∈ env.entries) :
    env'.value? name = env.value? name := by
  refine Option.ext fun value => ?_
  rw [value?_eq_some_iff, value?_eq_some_iff, Says, Says, h]

end Environment

/-! ## Settings -/

/-- What a cache can be configured with. -/
inductive Setting
  | waitSeconds
  | backoffBase
  | backoffMax
  | jitter
  | minDelay
  | minDelayOnEmpty
  | stopTimeout
  | dispatchInBackground
  | adjusts
  | marginMs
  deriving DecidableEq, Repr

namespace Setting

/-- The settings in the order in which their variables are read. -/
def all : List Setting :=
  [waitSeconds, backoffBase, backoffMax, jitter, minDelay, minDelayOnEmpty, stopTimeout,
    dispatchInBackground, adjusts, marginMs]

theorem mem_all (s : Setting) : s ∈ all := by
  cases s <;> decide

/-- How the name of the variable of a setting ends. -/
def name : Setting → String
  | waitSeconds => "WAIT_SECONDS"
  | backoffBase => "BACKOFF_BASE_SECONDS"
  | backoffMax => "BACKOFF_MAX_SECONDS"
  | jitter => "JITTER_FACTOR"
  | minDelay => "MIN_DELAY_BETWEEN_REQUESTS_SECONDS"
  | minDelayOnEmpty => "MIN_DELAY_ON_EMPTY_RESULT_SECONDS"
  | stopTimeout => "STOP_TIMEOUT_SECONDS"
  | dispatchInBackground => "DISPATCH_LISTENERS_IN_BACKGROUND"
  | adjusts => "TIMEOUT_AUTO_ADJUSTMENT_ENABLED"
  | marginMs => "TIMEOUT_AUTO_ADJUSTMENT_MARGIN_MS"

/-- What a setting can be. -/
def Value : Setting → Type
  | waitSeconds | marginMs => Int
  | dispatchInBackground | adjusts => Bool
  | backoffBase | backoffMax | jitter | minDelay | minDelayOnEmpty | stopTimeout => Float

/-- A setting in a configuration. -/
def get (c : Config Float) : (s : Setting) → s.Value
  | waitSeconds => c.waitSeconds
  | backoffBase => c.backoffBase
  | backoffMax => c.backoffMax
  | jitter => c.jitter
  | minDelay => c.minDelay
  | minDelayOnEmpty => c.minDelayOnEmpty
  | stopTimeout => c.stopTimeout
  | dispatchInBackground => c.dispatchInBackground
  | adjusts => c.adjustment.enabled
  | marginMs => c.adjustment.marginMs

/-- Reads a setting: a whole number, a flag, which every value is, or a number. -/
def read? : (s : Setting) → String → Option s.Value
  | waitSeconds, value => Numeral.int? value.toList
  | backoffBase, value => Numeral.float? value.toList
  | backoffMax, value => Numeral.float? value.toList
  | jitter, value => Numeral.float? value.toList
  | minDelay, value => Numeral.float? value.toList
  | minDelayOnEmpty, value => Numeral.float? value.toList
  | stopTimeout, value => Numeral.float? value.toList
  | dispatchInBackground, value => some (decide (Environment.Affirms value))
  | adjusts, value => some (decide (Environment.Affirms value))
  | marginMs, value => Numeral.int? value.toList

section
variable (beginning : String) (env : Environment) (base : Config Float) (s : Setting)

/-- The variable of a setting says something that cannot be read. -/
def Refused (value : String) : Prop :=
  env.Says (beginning ++ s.name) value ∧ s.read? value = none

/-- What is told of a setting whose variable is refused. -/
def fault? : Option Environment.Fault :=
  (env.value? (beginning ++ s.name)).bind fun value => match s.read? value with
    | some _ => none
    | none => some ⟨beginning ++ s.name, value⟩

/-- A setting with what its variable says, or as it was. -/
def settled : s.Value :=
  ((env.value? (beginning ++ s.name)).bind s.read?).getD (s.get base)

end

section
variable {beginning : String} {env : Environment} {base c d : Config Float} {s : Setting}

/-- A setting is told of when its variable is refused. -/
theorem fault?_eq_some_iff {f : Environment.Fault} : s.fault? beginning env = some f ↔
    ∃ value, s.Refused beginning env value ∧ f = ⟨beginning ++ s.name, value⟩ := by
  rw [fault?, Option.bind_eq_some_iff]
  refine exists_congr fun value => ?_
  rw [Environment.value?_eq_some_iff, Refused, and_assoc]
  refine and_congr_right fun _ => ?_
  cases s.read? value <;> simp [eq_comm]

/-- Nothing is told of a setting just if its variable says what it is to be, or nothing. -/
theorem fault?_eq_none_iff : s.fault? beginning env = none ↔
    ∀ value, ¬s.Refused beginning env value := by
  simp only [Option.eq_none_iff_forall_ne_some, ne_eq, fault?_eq_some_iff]
  exact ⟨fun h value hrefused => h _ ⟨value, hrefused, rfl⟩,
    fun h _ ⟨value, hrefused, _⟩ => h value hrefused⟩

/-- A setting is settled as its variable says. -/
theorem settled_of_said {value : String} {x : s.Value}
    (hsaid : env.Says (beginning ++ s.name) value) (hread : s.read? value = some x) :
    s.settled beginning env base = x := by
  rw [settled, Environment.value?_eq_some_iff.2 hsaid, Option.bind_some, hread, Option.getD_some]

/-- A setting whose variable says nothing stays as it was. -/
theorem settled_of_silent (h : ∀ value, ¬env.Says (beginning ++ s.name) value) :
    s.settled beginning env base = s.get base := by
  rw [settled, Environment.value?_eq_none_iff.2 h, Option.bind_none, Option.getD_none]

/-- A setting is read without fault and settled just if it is what its variable says, and what it
was before where that says nothing. -/
theorem settled_iff {x : s.Value} :
    s.fault? beginning env = none ∧ s.settled beginning env base = x ↔
      (∀ value, env.Says (beginning ++ s.name) value → s.read? value = some x) ∧
        ((∀ value, ¬env.Says (beginning ++ s.name) value) → x = s.get base) := by
  constructor
  · rintro ⟨hsound, rfl⟩
    refine ⟨fun value hsaid => ?_, settled_of_silent⟩
    have hread : s.read? value ≠ none := fun hnone =>
      fault?_eq_none_iff.1 hsound value ⟨hsaid, hnone⟩
    obtain ⟨x, hx⟩ := Option.ne_none_iff_exists'.1 hread
    rw [hx, settled_of_said hsaid hx]
  · rintro ⟨hread, hsilent⟩
    refine ⟨fault?_eq_none_iff.2 ?_, ?_⟩
    · rintro value ⟨hsaid, hnone⟩
      rw [hread value hsaid] at hnone
      cases hnone
    · by_cases hsaid : ∃ value, env.Says (beginning ++ s.name) value
      · obtain ⟨value, hsaid⟩ := hsaid
        exact settled_of_said hsaid (hread value hsaid)
      · rw [settled_of_silent (not_exists.1 hsaid), hsilent (not_exists.1 hsaid)]

/-- Settings are settled alike by variables that say the same. -/
theorem settled_congr (base : Config Float) {env' : Environment}
    (h : env'.value? (beginning ++ s.name) = env.value? (beginning ++ s.name)) :
    s.fault? beginning env' = s.fault? beginning env ∧
      s.settled beginning env' base = s.settled beginning env base := by
  rw [fault?, fault?, settled, settled, h]
  exact ⟨rfl, rfl⟩

end

end Setting

namespace Config

/-- The configuration with given settings. -/
def ofSettings (x : (s : Setting) → s.Value) : Config Float where
  waitSeconds := x .waitSeconds
  backoffBase := x .backoffBase
  backoffMax := x .backoffMax
  jitter := x .jitter
  minDelay := x .minDelay
  minDelayOnEmpty := x .minDelayOnEmpty
  stopTimeout := x .stopTimeout
  dispatchInBackground := x .dispatchInBackground
  adjustment := { enabled := x .adjusts, marginMs := x .marginMs }

/-- A configuration is its settings. -/
@[simp] theorem ofSettings_get (c : Config Float) : ofSettings (fun s => s.get c) = c := rfl

/-- The settings are those that were given. -/
@[simp] theorem get_ofSettings (x : (s : Setting) → s.Value) (s : Setting) :
    s.get (ofSettings x) = x s := by
  cases s <;> rfl

section
variable {beginning : String} {env : Environment} {base c : Config Float}

/-- What settings come to that are read one after the other: the first fault, or a result. -/
def verdict {α : Type} (beginning : String) (env : Environment) (settings : List Setting)
    (result : α) : Except Environment.Fault α :=
  match settings.findSome? (Setting.fault? beginning env) with
  | some f => .error f
  | none => .ok result

/-- Settings come to the first fault there is among them. -/
theorem verdict_eq_error_iff {α : Type} {settings : List Setting} {result : α}
    {f : Environment.Fault} : verdict beginning env settings result = .error f ↔
      settings.findSome? (Setting.fault? beginning env) = some f := by
  unfold verdict
  split <;> simp [*]

/-- Settings come to a result if there is no fault among them. -/
theorem verdict_eq_ok_iff {α : Type} {settings : List Setting} {result x : α} :
    verdict beginning env settings result = .ok x ↔
      (∀ s ∈ settings, s.fault? beginning env = none) ∧ result = x := by
  rw [← List.findSome?_eq_none_iff]
  unfold verdict
  split <;> simp [*]

/-- A setting is read before others: it comes to its own fault, or to what they come to. -/
theorem verdict_cons {α : Type} (s : Setting) {settings : List Setting} {result : α} :
    verdict beginning env (s :: settings) result =
      match s.fault? beginning env with
      | some f => .error f
      | none => verdict beginning env settings result := by
  rw [verdict, List.findSome?_cons]
  cases s.fault? beginning env <;> rfl

/-- Reading a number comes to the fault of the setting, or goes on with the setting as settled. -/
theorem number_bind {α : Type} (s : Setting) {read : List Char → Option s.Value}
    {settings : List Setting} {next : s.Value → Except Environment.Fault α} {result : α}
    (hread : ∀ value, s.read? value = read value.toList)
    (hnext : next (s.settled beginning env base) = verdict beginning env settings result) :
    (env.number (beginning ++ s.name) read (s.get base) >>= next) =
      verdict beginning env (s :: settings) result := by
  rw [verdict_cons, ← hnext, Environment.number, Setting.fault?, Setting.settled]
  cases env.value? (beginning ++ s.name) with
  | none => rfl
  | some value =>
    dsimp only [Option.bind_some]
    rw [hread]
    cases read value.toList <;> rfl

/-- Settings that are read without fail leave it to the others. -/
theorem verdict_cons_of_reads {α : Type} {s : Setting} {settings : List Setting} {result : α}
    (hread : ∀ value, (s.read? value).isSome) :
    verdict beginning env (s :: settings) result = verdict beginning env settings result := by
  have hnone : s.fault? beginning env = none := by
    rw [Setting.fault?_eq_none_iff]
    rintro value ⟨-, hrefused⟩
    exact Option.isSome_iff_ne_none.1 (hread value) hrefused
  rw [verdict_cons, hnone]

/-- The first setting whose variable is refused is told of, and if there is none, all settings are
settled. -/
theorem ofEnvironment_eq (beginning : String) (env : Environment) (base : Config Float) :
    ofEnvironment beginning env base =
      verdict beginning env Setting.all (ofSettings fun s => s.settled beginning env base) := by
  have hdispatch : env.flag (beginning ++ Setting.dispatchInBackground.name)
      base.dispatchInBackground = Setting.dispatchInBackground.settled beginning env base :=
    Environment.flag_eq ..
  have hadjusts : env.flag (beginning ++ Setting.adjusts.name) base.adjustment.enabled =
      Setting.adjusts.settled beginning env base :=
    Environment.flag_eq ..
  simp only [Setting.name] at hdispatch hadjusts
  rw [ofEnvironment, hdispatch, hadjusts, Setting.all]
  refine number_bind .waitSeconds (fun _ => rfl) ?_
  refine number_bind .backoffBase (fun _ => rfl) ?_
  refine number_bind .backoffMax (fun _ => rfl) ?_
  refine number_bind .jitter (fun _ => rfl) ?_
  refine number_bind .minDelay (fun _ => rfl) ?_
  refine number_bind .minDelayOnEmpty (fun _ => rfl) ?_
  refine number_bind .stopTimeout (fun _ => rfl) ?_
  rw [verdict_cons_of_reads fun _ => rfl, verdict_cons_of_reads fun _ => rfl]
  exact number_bind .marginMs (fun _ => rfl) rfl

/-- The variables are refused at the first setting whose variable says something that cannot be
read. -/
theorem ofEnvironment_eq_error_iff {f : Environment.Fault} :
    ofEnvironment beginning env base = .error f ↔
      ∃ before s after value, Setting.all = before ++ s :: after ∧
        s.Refused beginning env value ∧ f = ⟨beginning ++ s.name, value⟩ ∧
        ∀ t ∈ before, ∀ value, ¬t.Refused beginning env value := by
  rw [ofEnvironment_eq, verdict_eq_error_iff, List.findSome?_eq_some_iff]
  constructor
  · rintro ⟨before, s, after, hall, hfault, hbefore⟩
    obtain ⟨value, hrefused, rfl⟩ := Setting.fault?_eq_some_iff.1 hfault
    exact ⟨before, s, after, value, hall, hrefused, rfl,
      fun t ht => Setting.fault?_eq_none_iff.1 (hbefore t ht)⟩
  · rintro ⟨before, s, after, value, hall, hrefused, rfl, hbefore⟩
    exact ⟨before, s, after, hall, Setting.fault?_eq_some_iff.2 ⟨value, hrefused, rfl⟩,
      fun t ht => Setting.fault?_eq_none_iff.2 (hbefore t ht)⟩

/-- If none is refused, each setting is what its own variable says, or as it was. -/
theorem ofEnvironment_eq_ok_iff : ofEnvironment beginning env base = .ok c ↔ ∀ s : Setting,
    (∀ value, env.Says (beginning ++ s.name) value → s.read? value = some (s.get c)) ∧
      ((∀ value, ¬env.Says (beginning ++ s.name) value) → s.get c = s.get base) := by
  simp only [← Setting.settled_iff]
  rw [ofEnvironment_eq, verdict_eq_ok_iff]
  constructor
  · rintro ⟨hsound, rfl⟩ s
    exact ⟨hsound s s.mem_all, (get_ofSettings _ s).symm⟩
  · intro h
    refine ⟨fun s _ => (h s).1, ?_⟩
    rw [← ofSettings_get c]
    exact congrArg ofSettings (funext fun s => (h s).2)

/-- Variables that say the same of the ten settings come to the same. -/
theorem ofEnvironment_congr {env' : Environment}
    (h : ∀ s : Setting, env'.value? (beginning ++ s.name) = env.value? (beginning ++ s.name)) :
    ofEnvironment beginning env' base = ofEnvironment beginning env base := by
  have halike (s : Setting) := Setting.settled_congr base (h s)
  rw [ofEnvironment_eq, ofEnvironment_eq, verdict, verdict, funext fun s => (halike s).1,
    funext fun s => (halike s).2]

/-- What the variables say is refused at the first setting whose variable says something that cannot
be read, and the fault names that variable. Else there is a configuration, in which each setting is
what its own variable says, and that of `base` where that says nothing. Variables with the same
entries for the ten settings come to the same, whatever else is set and in whatever order. -/
theorem ofEnvironment_iff (beginning : String) (env : Environment) (base : Config Float) :
    (∀ f, ofEnvironment beginning env base = .error f ↔
      ∃ before s after value, Setting.all = before ++ s :: after ∧
        s.Refused beginning env value ∧ f = ⟨beginning ++ s.name, value⟩ ∧
        ∀ t ∈ before, ∀ value, ¬t.Refused beginning env value) ∧
    (∀ c, ofEnvironment beginning env base = .ok c ↔ ∀ s : Setting,
      (∀ value, env.Says (beginning ++ s.name) value → s.read? value = some (s.get c)) ∧
        ((∀ value, ¬env.Says (beginning ++ s.name) value) → s.get c = s.get base)) ∧
    ∀ env' : Environment,
      (∀ (s : Setting) value, (beginning ++ s.name, value) ∈ env'.entries ↔
        (beginning ++ s.name, value) ∈ env.entries) →
      ofEnvironment beginning env' base = ofEnvironment beginning env base :=
  ⟨fun _ => ofEnvironment_eq_error_iff, fun _ => ofEnvironment_eq_ok_iff,
    fun _ h => ofEnvironment_congr fun s => Environment.value?_congr (h s)⟩

/-- Of two variables that cannot be read the one of the earlier setting is told of, in whatever
order they are set, and whatever else is. Where all can be read, numbers and flags are what their
variables say, one that holds only blanks says nothing, and the rest is as it was. -/
theorem ofEnvironment_iff_sample : ∃ env env' env'' : Environment,
    env.keys = ["APP_STOP_TIMEOUT_SECONDS", "APP_JITTER_FACTOR"] ∧
    env'.keys = ["APP_JITTER_FACTOR", "PATH", "APP_STOP_TIMEOUT_SECONDS"] ∧
    ofEnvironment "APP_" env standard = .error ⟨"APP_JITTER_FACTOR", "much"⟩ ∧
    ofEnvironment "APP_" env' standard = .error ⟨"APP_JITTER_FACTOR", "much"⟩ ∧
    env''.entries = [("APP_WAIT_SECONDS", " 42"), ("APP_JITTER_FACTOR", "0.25"),
      ("APP_STOP_TIMEOUT_SECONDS", "  "), ("APP_DISPATCH_LISTENERS_IN_BACKGROUND", " Yes"),
      ("APP_TIMEOUT_AUTO_ADJUSTMENT_ENABLED", "off"),
      ("APP_TIMEOUT_AUTO_ADJUSTMENT_MARGIN_MS", "-250")] ∧
    ofEnvironment "APP_" env'' standard = .ok { standard with
      waitSeconds := 42
      jitter := Float.ofBits 0x3FD0000000000000
      dispatchInBackground := true
      adjustment := { enabled := false, marginMs := -250 } } := by
  let env : Environment :=
    .ofList [("APP_STOP_TIMEOUT_SECONDS", "soon"), ("APP_JITTER_FACTOR", "much")]
  let env' : Environment :=
    .ofList [("APP_JITTER_FACTOR", "much"), ("PATH", "/"), ("APP_STOP_TIMEOUT_SECONDS", "soon")]
  let env'' : Environment := .ofList [("APP_WAIT_SECONDS", " 42"), ("APP_JITTER_FACTOR", "0.25"),
    ("APP_STOP_TIMEOUT_SECONDS", "  "), ("APP_DISPATCH_LISTENERS_IN_BACKGROUND", " Yes"),
    ("APP_TIMEOUT_AUTO_ADJUSTMENT_ENABLED", "off"),
    ("APP_TIMEOUT_AUTO_ADJUSTMENT_MARGIN_MS", "-250")]
  obtain ⟨herror, -, hsame⟩ := ofEnvironment_iff "APP_" env standard
  have hbefore : ∀ t ∈ [Setting.waitSeconds, .backoffBase, .backoffMax],
      t.fault? "APP_" env = none := by decide +kernel
  have hjitter : Setting.jitter.fault? "APP_" env = some ⟨"APP_JITTER_FACTOR", "much"⟩ := by
    decide +kernel
  obtain ⟨value, hrefused, hfault⟩ := Setting.fault?_eq_some_iff.1 hjitter
  have hrefuses : ofEnvironment "APP_" env standard = .error ⟨"APP_JITTER_FACTOR", "much"⟩ :=
    (herror _).2 ⟨_, _, _, value, rfl, hrefused, hfault,
      fun t ht => Setting.fault?_eq_none_iff.1 (hbefore t ht)⟩
  have hentries (s : Setting) (value : String) : ("APP_" ++ s.name, value) ∈ env'.entries ↔
      ("APP_" ++ s.name, value) ∈ env.entries := by
    have hpath : "APP_" ++ s.name ≠ "PATH" := by cases s <;> decide
    change _ ∈ [_, _, _] ↔ _ ∈ [_, _]
    simp only [List.mem_cons, Prod.mk.injEq, hpath, false_and, false_or, List.not_mem_nil, or_false]
    exact or_comm
  have hsound : ∀ s ∈ Setting.all, s.fault? "APP_" env'' = none := by decide +kernel
  refine ⟨env, env', env'', rfl, rfl, hrefuses, (hsame env' hentries).trans hrefuses, rfl, ?_⟩
  refine ((ofEnvironment_iff "APP_" env'' standard).2.1 _).2 fun s =>
    Setting.settled_iff.1 ⟨hsound s s.mem_all, ?_⟩
  cases s <;> rfl

end

end Config

end BlockingQuery
