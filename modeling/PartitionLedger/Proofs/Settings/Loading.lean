/-
# Which settings are loaded

Each variable is looked up, read and judged before the next one is looked up, so that the first
bad one decides both what is reported and how far the look-up went. A number is read digit by
digit under a bound that is checked at each of them, which comes to the same as checking the
whole number, since a number never shrinks by further digits. What the outcome depends on are
the variables that were asked for, and nothing else but the fresh job.
-/

import PartitionLedger.Settings

namespace PartitionLedger.Settings

/-! ### Numbers -/

/-- A text of one or more decimal digits, with a plus sign in front or not, and its value. -/
def Denotes (text : String) (value : Nat) : Prop :=
  ∃ digits : List Char, digits ≠ [] ∧ (∀ char ∈ digits, char.isDigit = true) ∧
    (text.toList = digits ∨ text.toList = '+' :: digits) ∧ value = Nat.ofDigitChars 10 digits 0

/-- Further digits never make a number smaller. -/
theorem le_ofDigitChars (digits : List Char) (high : Nat) :
    high ≤ Nat.ofDigitChars 10 digits high := by
  rw [Nat.ofDigitChars_eq_ofDigitChars_zero]
  exact Nat.le_add_right_of_le (Nat.le_mul_of_pos_left high (Nat.pow_pos (by decide)))

theorem readCountFrom_eq_ok_iff (high : Nat) (chars : List Char) (value : Nat)
    (small : high < UInt64.size) :
    readCountFrom high chars = .ok value ↔
      (∀ char ∈ chars, char.isDigit = true) ∧ value = Nat.ofDigitChars 10 chars high ∧
        value < UInt64.size := by
  induction chars generalizing high with
  | nil =>
    rw [readCountFrom, Except.ok.injEq, Nat.ofDigitChars_nil]
    constructor
    · rintro rfl
      exact ⟨nofun, rfl, small⟩
    · rintro ⟨_, same, _⟩
      exact same.symm
  | cons char rest ih =>
    have next : 10 * high + (char.toNat - '0'.toNat) = high * 10 + (char.toNat - '0'.toNat) := by
      rw [Nat.mul_comm]
    rw [readCountFrom, List.forall_mem_cons, Nat.ofDigitChars_cons, next]
    by_cases digit : char.isDigit = true
    · rw [if_pos digit, and_iff_right digit]
      by_cases fits : high * 10 + (char.toNat - '0'.toNat) < UInt64.size
      · rw [if_pos fits, ih _ fits]
      · -- The number is too large by now, and stays so whatever follows.
        rw [if_neg fits]
        refine iff_of_false nofun ?_
        rintro ⟨_, same, bound⟩
        rw [same] at bound
        exact fits (Nat.lt_of_le_of_lt (le_ofDigitChars rest _) bound)
    · rw [if_neg digit]
      exact iff_of_false nofun fun both => digit both.1.1

/-- After a plus sign all characters are digits, and there are some. -/
theorem denotes_iff_of_plus {text : String} {rest : List Char} (given : text.toList = '+' :: rest)
    (value : Nat) :
    Denotes text value ↔
      rest ≠ [] ∧ (∀ char ∈ rest, char.isDigit = true) ∧ value = Nat.ofDigitChars 10 rest 0 := by
  rw [Denotes, given]
  constructor
  · rintro ⟨digits, some, digit, shape | shape, same⟩
    · -- The sign is no digit, so it is not part of the number.
      have plus := digit '+' (shape ▸ List.mem_cons_self)
      exact absurd plus (by decide)
    · obtain rfl := (List.cons.inj shape).2
      exact ⟨some, digit, same⟩
  · rintro ⟨some, digit, same⟩
    exact ⟨rest, some, digit, Or.inr rfl, same⟩

/-- Without a plus sign all characters are digits, and there are some. -/
theorem denotes_iff_of_plain {text : String} (plain : text.toList.head? ≠ some '+')
    (value : Nat) :
    Denotes text value ↔ text.toList ≠ [] ∧ (∀ char ∈ text.toList, char.isDigit = true) ∧
      value = Nat.ofDigitChars 10 text.toList 0 := by
  constructor
  · rintro ⟨digits, some, digit, shape | shape, same⟩
    · rw [shape]
      exact ⟨some, digit, same⟩
    · rw [shape] at plain
      exact absurd rfl plain
  · rintro ⟨some, digit, same⟩
    exact ⟨text.toList, some, digit, Or.inl rfl, same⟩

/-- A number below 2^64 is read from every text that denotes it, and from no other. -/
theorem readCount_eq_ok_iff (text : String) (value : Nat) :
    readCount text.toList = .ok value ↔ Denotes text value ∧ value < UInt64.size := by
  have start : 0 < UInt64.size := by decide
  cases given : text.toList with
  | nil =>
    have plain : text.toList.head? ≠ some '+' := by simp [given]
    rw [denotes_iff_of_plain plain, readCount, given]
    simp
  | cons first rest =>
    rw [readCount]
    by_cases plus : first = '+'
    · subst plus
      rw [if_pos rfl, denotes_iff_of_plus given]
      cases rest with
      | nil => simp
      | cons second rest =>
        rw [List.isEmpty_cons, if_neg Bool.false_ne_true, readCountFrom_eq_ok_iff _ _ _ start,
          and_iff_right (List.cons_ne_nil second rest), and_assoc]
    · have plain : text.toList.head? ≠ some '+' := by simp [given, plus]
      rw [if_neg plus, denotes_iff_of_plain plain, given, readCountFrom_eq_ok_iff _ _ _ start,
        and_iff_right (List.cons_ne_nil first rest), and_assoc]

/-! ### One variable -/

/-- The texts that a variable may be set to. -/
def Accepts : Variable → String → Prop
  | .jobId, raw => ∃ jobId, Id.parse .job raw = .ok jobId
  | .timeout, raw => ∃ milliseconds, Denotes raw milliseconds ∧ 1 ≤ milliseconds ∧
      milliseconds < UInt64.size
  | .logLevel, _ => True
  | .logFormat, raw => raw = "json" ∨ raw = "pretty"

/-- What is said in the first place about a text that a variable must not be set to. -/
inductive Complaint : Variable → String → String → Prop where
  | jobId (raw : String) : Complaint .jobId raw ("invalid SHOAL_JOB_ID '" ++ raw ++ "'")
  | timeout {raw : String} (unread : ∀ value, Denotes raw value → UInt64.size ≤ value) :
    Complaint .timeout raw ("invalid SHOAL_RPC_TIMEOUT_MS '" ++ raw ++ "'")
  | zeroTimeout {raw : String} (zero : Denotes raw 0) :
    Complaint .timeout raw "SHOAL_RPC_TIMEOUT_MS must be greater than zero"
  | logFormat (raw : String) :
    Complaint .logFormat raw ("invalid SHOAL_LOG_FORMAT '" ++ raw ++ "', expected json or pretty")

/-- What comes of a variable that may be given: a value with a meaning if it is not given or
accepted, and an error about it otherwise. -/
inductive Read {α : Type} (key : Variable) (given : Option String) (Means : α → Prop) :
    Except SettingsError α → Prop where
  | ok {value : α} (accepted : ∀ raw, given = some raw → Accepts key raw) (means : Means value) :
    Read key given Means (.ok value)
  | error {error : SettingsError} {raw : String} (blamed : error.blamed = key)
    (set : given = some raw) (refused : ¬ Accepts key raw)
    (complaint : Complaint key raw error.message) : Read key given Means (.error error)

theorem read_jobId (fresh : JobId) (given : Option String) :
    Read .jobId given
      (fun jobId => given.elim (jobId = fresh) fun raw => Id.parse .job raw = .ok jobId)
      (readJobId fresh given) := by
  cases given with
  | none => exact .ok nofun rfl
  | some raw =>
    rw [readJobId]
    cases parsed : Id.parse .job raw with
    | ok jobId =>
      refine .ok ?_ parsed
      rintro _ ⟨⟩
      exact ⟨jobId, parsed⟩
    | error cause =>
      refine .error rfl rfl ?_ (.jobId raw)
      rintro ⟨jobId, accepted⟩
      rw [parsed] at accepted
      cases accepted

theorem read_timeout (given : Option String) :
    Read .timeout given
      (fun timeout => 0 < timeout ∧ given.elim (timeout = 10000) fun raw => Denotes raw timeout)
      (readTimeout given) := by
  cases given with
  | none => exact .ok nofun ⟨by decide, rfl⟩
  | some raw =>
    -- Texts that are read as nothing, as zero and as something else.
    have only := readCount_eq_ok_iff raw
    rw [readTimeout]
    cases read : readCount raw.toList with
    | error cause =>
      rw [read] at only
      have large : ∀ value, Denotes raw value → UInt64.size ≤ value := by
        intro value denotes
        rw [← Nat.not_lt]
        exact fun bound => nomatch (only value).mpr ⟨denotes, bound⟩
      refine .error rfl rfl ?_ (.timeout large)
      rintro ⟨value, denotes, _, bound⟩
      exact Nat.not_lt.mpr (large value denotes) bound
    | ok milliseconds =>
      rw [read] at only
      obtain ⟨denotes, bound⟩ := (only milliseconds).mp rfl
      cases milliseconds with
      | zero =>
        refine .error rfl rfl ?_ (.zeroTimeout denotes)
        rintro ⟨value, denotes', positive, bound'⟩
        obtain rfl := Except.ok.inj ((only value).mpr ⟨denotes', bound'⟩)
        exact Nat.not_lt_zero 0 positive
      | succ milliseconds =>
        refine .ok ?_ ⟨Nat.succ_pos _, denotes⟩
        rintro _ ⟨⟩
        exact ⟨_, denotes, Nat.succ_pos _, bound⟩

theorem read_logFormat (given : Option String) :
    Read .logFormat given
      (fun format => given.elim (format = .json) fun raw => format.name = raw)
      (readLogFormat given) := by
  cases given with
  | none => exact .ok nofun rfl
  | some raw =>
    rw [readLogFormat]
    cases found : LogFormat.ofName? raw with
    | some format =>
      rw [LogFormat.ofName?] at found
      have matching := List.find?_some found
      have named : format.name = raw := of_decide_eq_true matching
      refine .ok ?_ named
      rintro _ ⟨⟩
      rw [← named]
      cases format with
      | json => exact Or.inl rfl
      | pretty => exact Or.inr rfl
    | none =>
      refine .error rfl rfl ?_ (.logFormat raw)
      rintro (rfl | rfl) <;> cases found

/-! ### All variables -/

/-- Load settings through a look-up by name. -/
def loadNamed (lookup : String → Option String) (fresh : JobId) : Loaded :=
  load (fun key => lookup key.name) fresh

/-- A variable is not given, or is set to a text that it accepts. -/
def Fits (lookup : String → Option String) (key : Variable) : Prop :=
  ∀ raw, lookup key.name = some raw → Accepts key raw

/-- The settings say what the variables say, and the defaults where they say nothing. -/
structure Reflects (lookup : String → Option String) (fresh : JobId) (settings : Settings) :
    Prop where
  jobId : (lookup "SHOAL_JOB_ID").elim (settings.jobId = fresh) fun raw =>
    Id.parse .job raw = .ok settings.jobId
  timeout_pos : 0 < settings.timeout
  timeout : (lookup "SHOAL_RPC_TIMEOUT_MS").elim (settings.timeout = 10000) fun raw =>
    Denotes raw settings.timeout
  logLevel : settings.logLevel = (lookup "SHOAL_LOG_LEVEL").getD "info"
  logFormat : (lookup "SHOAL_LOG_FORMAT").elim (settings.logFormat = .json) fun raw =>
    settings.logFormat.name = raw

/-- The error is about the first variable that does not fit, the last one asked for. -/
structure Blames (lookup : String → Option String) (asked : List Variable)
    (error : SettingsError) : Prop where
  offends : ∃ raw, lookup error.blamed.name = some raw ∧ ¬ Accepts error.blamed raw ∧
    Complaint error.blamed raw error.message
  earlier_fit : ∀ key ∈ Variable.all.takeWhile (· ≠ error.blamed), Fits lookup key
  asked : asked = Variable.all.takeWhile (· ≠ error.blamed) ++ [error.blamed]

theorem Blames.of_refused {lookup : String → Option String} {key : Variable}
    {error : SettingsError} {raw : String} (blamed : error.blamed = key)
    (set : lookup key.name = some raw) (refused : ¬ Accepts key raw)
    (complaint : Complaint key raw error.message)
    (earlier_fit : ∀ earlier ∈ Variable.all.takeWhile (· ≠ key), Fits lookup earlier) :
    Blames lookup (Variable.all.takeWhile (· ≠ key) ++ [key]) error := by
  subst blamed
  exact ⟨⟨raw, set, refused, complaint⟩, earlier_fit, rfl⟩

/-- Loading ends with settings if all variables fit, and else at the first one that does not. -/
inductive Ending (lookup : String → Option String) (fresh : JobId) : Loaded → Prop where
  | loaded {settings : Settings} (fit : ∀ key, Fits lookup key)
    (reflects : Reflects lookup fresh settings) : Ending lookup fresh ⟨Variable.all, .ok settings⟩
  | refused {asked : List Variable} {error : SettingsError} (begins : asked <+: Variable.all)
    (blames : Blames lookup asked error) : Ending lookup fresh ⟨asked, .error error⟩

theorem ending_loadNamed (lookup : String → Option String) (fresh : JobId) :
    Ending lookup fresh (loadNamed lookup fresh) := by
  rw [loadNamed, load]
  have first := read_jobId fresh (lookup Variable.jobId.name)
  generalize readJobId fresh (lookup Variable.jobId.name) = job at first
  cases first with
  | error blamed set refused complaint =>
    exact .refused (by decide) (Blames.of_refused blamed set refused complaint nofun)
  | @ok jobId jobFits jobMeans =>
  have second := read_timeout (lookup Variable.timeout.name)
  simp only []
  generalize readTimeout (lookup Variable.timeout.name) = time at second
  cases second with
  | error blamed set refused complaint =>
    refine .refused (by decide) (Blames.of_refused blamed set refused complaint ?_)
    exact List.forall_mem_singleton.mpr jobFits
  | @ok timeout timeoutFits timeoutMeans =>
  have third := read_logFormat (lookup Variable.logFormat.name)
  have levelFits : Fits lookup .logLevel := fun _ _ => trivial
  simp only []
  generalize readLogFormat (lookup Variable.logFormat.name) = form at third
  cases third with
  | error blamed set refused complaint =>
    refine .refused (by decide) (Blames.of_refused blamed set refused complaint ?_)
    exact List.forall_mem_cons.mpr ⟨jobFits, List.forall_mem_cons.mpr
      ⟨timeoutFits, List.forall_mem_singleton.mpr levelFits⟩⟩
  | ok formatFits formatMeans =>
    refine .loaded ?_ ⟨jobMeans, timeoutMeans.1, timeoutMeans.2, rfl, formatMeans⟩
    intro key
    cases key with
    | jobId => exact jobFits
    | timeout => exact timeoutFits
    | logLevel => exact levelFits
    | logFormat => exact formatFits

/-! ### What the outcome depends on -/

/-- The outcome with another fresh job, which shows if no job is set. -/
def Refreshed (lookup : String → Option String) (fresh : JobId) (loaded : Loaded) : Loaded where
  asked := loaded.asked
  result := loaded.result.map fun settings =>
    if lookup "SHOAL_JOB_ID" = none then { settings with jobId := fresh } else settings

theorem readJobId_fresh (fresh fresh' : JobId) (given : Option String) :
    readJobId fresh' given =
      (readJobId fresh given).map fun jobId => if given = none then fresh' else jobId := by
  cases given with
  | none => rfl
  | some raw =>
    rw [readJobId, readJobId]
    cases Id.parse .job raw <;> rfl

theorem loadNamed_fresh (lookup : String → Option String) (fresh fresh' : JobId) :
    loadNamed lookup fresh' = Refreshed lookup fresh' (loadNamed lookup fresh) := by
  rw [loadNamed, loadNamed, load, load, readJobId_fresh fresh fresh']
  cases readJobId fresh (lookup Variable.jobId.name) with
  | error error => rfl
  | ok jobId =>
  simp only [Except.map]
  cases readTimeout (lookup Variable.timeout.name) with
  | error error => rfl
  | ok timeout =>
  simp only []
  cases readLogFormat (lookup Variable.logFormat.name) with
  | error error => rfl
  | ok logFormat =>
    have name : Variable.jobId.name = "SHOAL_JOB_ID" := rfl
    simp only [Refreshed, Except.map, name]
    by_cases unset : lookup "SHOAL_JOB_ID" = none
    · rw [if_pos unset, if_pos unset]
    · rw [if_neg unset, if_neg unset]

/-- Only the variables that were asked for matter. -/
theorem loadNamed_congr {lookup other : String → Option String} {fresh : JobId}
    (agree : ∀ key ∈ (loadNamed lookup fresh).asked, other key.name = lookup key.name) :
    loadNamed other fresh = loadNamed lookup fresh := by
  rw [loadNamed, load] at agree
  rw [loadNamed, loadNamed, load, load]
  cases job : readJobId fresh (lookup Variable.jobId.name) with
  | error error =>
    simp only [job, List.forall_mem_singleton] at agree
    rw [agree, job]
  | ok jobId =>
  cases time : readTimeout (lookup Variable.timeout.name) with
  | error error =>
    simp only [job, time, List.forall_mem_cons] at agree
    rw [agree.1, job, agree.2.1]
    simp only [time]
  | ok timeout =>
    -- From here on all variables have been asked for, whatever comes of the last one.
    have all : ∀ key ∈ Variable.all, other key.name = lookup key.name := by
      simp only [job, time] at agree
      cases form : readLogFormat (lookup Variable.logFormat.name) with
      | error error => simpa only [form] using agree
      | ok logFormat => simpa only [form] using agree
    rw [all .jobId (by decide), all .timeout (by decide), all .logLevel (by decide),
      all .logFormat (by decide), job]
    simp only [time]

/-- Settings are loaded exactly if all variables fit, and otherwise the first that does not is
reported and ends the look-up. -/
structure LoadsExactly (lookup : String → Option String) (fresh : JobId) (loaded : Loaded) :
    Prop where
  succeeds_iff : (∃ settings, loaded.result = .ok settings) ↔ ∀ key, Fits lookup key
  reflects : ∀ settings, loaded.result = .ok settings →
    Reflects lookup fresh settings ∧ loaded.asked = Variable.all
  blames : ∀ error, loaded.result = .error error → Blames lookup loaded.asked error
  asked_prefix : loaded.asked.map Variable.name <+:
    ["SHOAL_JOB_ID", "SHOAL_RPC_TIMEOUT_MS", "SHOAL_LOG_LEVEL", "SHOAL_LOG_FORMAT"]
  /-- Look-ups that agree on what was asked for load alike, up to the fresh job. -/
  depends : ∀ other fresh', (∀ key ∈ loaded.asked, other key.name = lookup key.name) →
    loadNamed other fresh' = Refreshed lookup fresh' loaded

theorem loads_exactly (lookup : String → Option String) (fresh : JobId) :
    LoadsExactly lookup fresh (loadNamed lookup fresh) := by
  have depends : ∀ other fresh', (∀ key ∈ (loadNamed lookup fresh).asked,
      other key.name = lookup key.name) →
        loadNamed other fresh' = Refreshed lookup fresh' (loadNamed lookup fresh) := by
    intro other fresh' agree
    have refreshed := loadNamed_fresh lookup fresh fresh'
    rw [← refreshed]
    apply loadNamed_congr
    rw [refreshed]
    exact agree
  have ending := ending_loadNamed lookup fresh
  generalize loadNamed lookup fresh = loaded at ending depends
  cases ending with
  | @loaded settings fit reflects =>
    refine ⟨iff_of_true ⟨settings, rfl⟩ fit, ?_, nofun, List.prefix_rfl, depends⟩
    rintro _ ⟨⟩
    exact ⟨reflects, rfl⟩
  | @refused asked error begins blames =>
    refine ⟨iff_of_false nofun ?_, nofun, ?_, begins.map _, depends⟩
    · intro fit
      obtain ⟨raw, set, refused, _⟩ := blames.offends
      exact refused (fit error.blamed raw set)
    · rintro _ ⟨⟩
      exact blames

end PartitionLedger.Settings
