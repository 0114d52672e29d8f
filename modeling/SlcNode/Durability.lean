import SlcNode.Frame
import SlcNode.Library.EventRun

namespace SlcNode

open EventRun State

inductive Start
  | restoreConfig
  | resetConfig

def Start.apply : Start → State → State
  | .restoreConfig => State.restoreConfig
  | .resetConfig => State.resetConfig

namespace ConfigPut

def step (s : State) (p : ConfigPut) : State := p.apply s

def Stored (s : State) : Prop :=
  s.files DataStore.sysconfigFileName = some s.config.buff

instance (s : State) : Decidable (Stored s) :=
  inferInstanceAs (Decidable (s.files DataStore.sysconfigFileName = some s.config.buff))

def ComesBack (s : State) : Prop := s.restoreConfig.config = s.config.clearOnBoot

/-- After the call the file holds the config in force. Only a restored config whose registration
was cleared may still differ from its file, until a call changes it. -/
def Durable (s : State) (p : ConfigPut) : Prop :=
  (Stored (step s p) ∨
    ¬Stored s ∧ (step s p).config = s.config ∧
      ∃ c, ConfigFile (step s p).files c ∧ (step s p).config = c.clearOnBoot) ∧
  ComesBack (step s p)

/-- A whole image is the one in force or the one in the file; a period is not both below the
minimum in force and asked to be the minimum. -/
def Harmless (s : State) : ConfigPut → Prop
  | .config buff =>
    buff.length = configBuffLen → (Config.ofBuff buff).limit = s.config ∨
      s.files DataStore.sysconfigFileName = some (Config.ofBuff buff).limit.buff
  | .periodSec p value =>
    uint32 value = cycleUploadTimeMinSec.setWidth 32 →
      ¬(s.config.cycle p).cycleTime < cycleUploadTimeMinSec
  | _ => True

structure InFile (s : State) (c : Config) : Prop where
  file : ConfigFile s.files c
  config : s.config = c ∨ s.config = c.clearOnBoot

theorem InFile.comesBack {s : State} {c : Config} (h : InFile s c) : ComesBack s := by
  rw [ComesBack, restoreConfig_of_file h.file]
  rcases h.config with hc | hc
  · rw [hc]
  · rw [hc, Config.clearOnBoot_idem]

theorem InFile.version {s : State} {c : Config} (h : InFile s c) :
    s.config.version = Config.defaultConfigVersion := by
  rcases h.config with hc | hc <;> rw [hc]
  · exact h.file.2
  · rw [Config.version_clearOnBoot, h.file.2]

theorem InFile.cycle {s : State} {c : Config} (h : InFile s c) (p : Period) :
    s.config.cycle p = c.cycle p := by
  rcases h.config with hc | hc <;> rw [hc]
  rw [Config.cycle_clearOnBoot]

theorem inFile_of_stored {s : State} (h : Stored s)
    (hv : s.config.version = Config.defaultConfigVersion) : InFile s s.config :=
  ⟨⟨h, hv⟩, Or.inl rfl⟩

theorem start_inFile (k : Start) (s : State) : ∃ c, InFile (k.apply s) c := by
  have hreset : ∃ c, InFile s.resetConfig c :=
    ⟨_, inFile_of_stored (resetConfig_file s).1 (resetConfig_file s).2⟩
  cases k with
  | resetConfig => exact hreset
  | restoreConfig =>
    cases hr : restorable s.files with
    | false =>
      rw [Start.apply, restoreConfig_of_not_restorable hr]
      exact hreset
    | true =>
      obtain ⟨c, hc⟩ := restorable_iff.mp hr
      rw [Start.apply, restoreConfig_of_file hc]
      exact ⟨c, hc, Or.inr rfl⟩

inductive Careful (s t : State) : Prop
  | stored (file : Stored t) (version : t.config.version = s.config.version)
  | unchanged (config : t.config = s.config) (files : t.files = s.files)

theorem storeConfig_careful {s t : State} (h : t.config.version = s.config.version) :
    Careful s t.storeConfig := .stored (storeConfig_file t) h

theorem updateNodeRegister_careful (v : ℤ) (s : State) : Careful s (s.updateNodeRegister v) := by
  unfold updateNodeRegister
  generalize (if v > 0 then 1 else 0 : Byte) = b
  dsimp only
  split
  case isTrue => exact storeConfig_careful rfl
  case isFalse h =>
    refine .unchanged ?_ rfl
    rw [not_not.mp h]

theorem updateField_careful {w : ℕ} {get : Config → BitVec w} {set : BitVec w → Config → Config}
    (hset : ∀ v c, (set v c).version = c.version) (v : ℤ) (s : State) :
    Careful s (updateField get set v s) := by
  unfold updateField
  split
  · exact storeConfig_careful (hset _ _)
  · exact .unchanged rfl rfl

theorem limit_of_not_lt {t : CycleTime} (h : ¬t.cycleTime < cycleUploadTimeMinSec) : t.limit = t :=
  if_neg h

theorem updateConfigPeriodSec_careful {p : Period} {v : ℤ} {s : State}
    (h : ¬(s.config.cycle p).cycleTime < cycleUploadTimeMinSec) :
    Careful s (s.updateConfigPeriodSec p v) := by
  rw [updateConfigPeriodSec, limit_of_not_lt h, Config.withCycle_cycle]
  exact updateField_careful (fun v c => Config.version_withCycle ..) v s

theorem updateConfig_stored {buff : List Byte} {s : State} (hlen : buff.length = configBuffLen)
    (h : (Config.ofBuff buff).limit = s.config) : Careful s (s.updateConfig buff) := by
  rw [updateConfig, if_pos hlen]
  dsimp only
  rw [if_pos (congrArg Config.buff h)]
  exact storeConfig_careful (congrArg Config.version h)

theorem updateConfig_changed {buff : List Byte} {s : State} (hlen : buff.length = configBuffLen)
    (h : (Config.ofBuff buff).limit ≠ s.config) :
    (s.updateConfig buff).config = (Config.ofBuff buff).limit ∧
      (s.updateConfig buff).files = s.files := by
  rw [updateConfig, if_pos hlen]
  dsimp only
  rw [if_neg fun hb => h (Config.buff_injective hb)]
  exact ⟨rfl, rfl⟩

theorem updateConfigPeriodSec_changed {p : Period} {v : ℤ} {s : State}
    (h : (s.config.cycle p).cycleTime < cycleUploadTimeMinSec)
    (hv : uint32 v = cycleUploadTimeMinSec.setWidth 32) :
    ((s.updateConfigPeriodSec p v).config.cycle p).cycleTime = cycleUploadTimeMinSec ∧
      (s.updateConfigPeriodSec p v).files = s.files := by
  have hl : (s.config.cycle p).limit =
      { s.config.cycle p with cycleTime := cycleUploadTimeMinSec } := if_pos h
  rw [updateConfigPeriodSec, updateField, hl]
  simp only [Config.cycle_withCycle_self, hv, ne_eq, not_true_eq_false, if_false, and_self]

theorem step_careful {s : State} {c : Config} (hs : InFile s c) {p : ConfigPut}
    (h : Harmless s p) :
    Careful s (step s p) := by
  cases p with
  | nodeRegister v => exact updateNodeRegister_careful v s
  | config buff =>
    by_cases hlen : buff.length = configBuffLen
    · by_cases heq : (Config.ofBuff buff).limit = s.config
      · exact updateConfig_stored hlen heq
      · have hfile := (h hlen).resolve_left heq
        obtain ⟨hc, hf⟩ := updateConfig_changed hlen heq
        have hbuff := Config.buff_injective (Option.some.inj (hfile.symm.trans hs.file.1))
        refine .stored ?_ ?_
        · rw [Stored, step, apply, hc, hf, hfile]
        · rw [step, apply, hc, hbuff, hs.file.2, hs.version]
    · rw [step, apply, updateConfig, if_neg hlen]
      exact .unchanged rfl rfl
  | watchdogSysSec v =>
    rw [step, apply, updateConfigWatchdogSysSec]
    refine updateField_careful ?_ v s
    exact fun _ _ => rfl
  | watchdogRegSec v =>
    rw [step, apply, updateConfigWatchdogRegSec]
    refine updateField_careful ?_ v s
    exact fun _ _ => rfl
  | watchdogLightSensorSec v =>
    rw [step, apply, updateConfigWatchdogLightSensorSec]
    refine updateField_careful ?_ v s
    exact fun _ _ => rfl
  | periodSec p v =>
    by_cases hlt : (s.config.cycle p).cycleTime < cycleUploadTimeMinSec
    · have hv : uint32 v ≠ cycleUploadTimeMinSec.setWidth 32 := fun hv => h hv hlt
      have hl : (s.config.cycle p).limit =
          { s.config.cycle p with cycleTime := cycleUploadTimeMinSec } := if_pos hlt
      rw [step, apply, updateConfigPeriodSec, updateField, hl]
      simp only [Config.cycle_withCycle_self]
      rw [if_pos hv]
      exact storeConfig_careful (by simp only [Config.version_withCycle])
    · exact updateConfigPeriodSec_careful hlt
  | deregKeepOnline v =>
    rw [step, apply, updateConfigDeregKeepOnline]
    split
    · exact storeConfig_careful rfl
    · exact .unchanged rfl rfl
  | deregKeepOnlineTimeSec v =>
    rw [step, apply, updateConfigDeregKeepOnlineTimeSec]
    refine updateField_careful ?_ v s
    exact fun _ _ => rfl
  | resetConfig =>
    exact .stored (resetConfig_file s).1 ((resetConfig_file s).2.trans hs.version.symm)

theorem Careful.inFile {s t : State} {c : Config} (h : Careful s t) (hs : InFile s c) :
    ∃ d, InFile t d := by
  cases h with
  | stored file version => exact ⟨_, inFile_of_stored file (version.trans hs.version)⟩
  | unchanged config files =>
    exact ⟨c, by rw [files]; exact hs.file, by rw [config]; exact hs.config⟩

theorem Careful.durable {s : State} {p : ConfigPut} {c : Config} (h : Careful s (step s p))
    (hs : InFile s c) : Durable s p := by
  obtain ⟨d, hd⟩ := h.inFile hs
  refine ⟨?_, hd.comesBack⟩
  cases h with
  | stored file => exact Or.inl file
  | unchanged config files =>
    by_cases hst : Stored s
    · left
      rw [Stored, files, config]
      exact hst
    · right
      refine ⟨hst, config, d, hd.file, hd.config.resolve_left fun hd' => hst ?_⟩
      rw [Stored, ← files, ← config, hd']
      exact hd.file.1

theorem harmless_of_durable {s : State} {p : ConfigPut} {c : Config} (hs : InFile s c)
    (h : Durable s p) : Harmless s p := by
  cases p with
  | config buff =>
    intro hlen
    by_contra hne
    obtain ⟨heq, hfile⟩ := not_or.mp hne
    obtain ⟨hc, hf⟩ := updateConfig_changed hlen heq
    rcases h.1 with hst | ⟨-, hconfig, -⟩
    · exact hfile (by rwa [Stored, step, apply, hc, hf] at hst)
    · exact heq (hc.symm.trans hconfig)
  | periodSec p v =>
    intro hv hlt
    obtain ⟨hc, hf⟩ := updateConfigPeriodSec_changed hlt hv
    have hold : (c.cycle p).cycleTime ≠ cycleUploadTimeMinSec := by
      rw [← hs.cycle]
      exact BitVec.ne_of_lt hlt
    rcases h.1 with hst | ⟨-, hconfig, -⟩
    · rw [Stored, step, apply, hf, hs.file.1] at hst
      rw [← Config.buff_injective (Option.some.inj hst)] at hc
      exact hold hc
    · rw [step, apply] at hconfig
      rw [hconfig, hs.cycle] at hc
      exact hold hc
  | _ => trivial

def Kept (s : State) : Prop := ∃ c, InFile s c

theorem kept_step (s : State) (p : ConfigPut) (hs : Kept s) (h : Harmless s p) :
    Kept (step s p) := by
  obtain ⟨c, hc⟩ := hs
  exact (step_careful hc h).inFile hc

theorem step_durable_iff (s : State) (p : ConfigPut) (hs : Kept s) :
    Durable s p ↔ Harmless s p := by
  obtain ⟨c, hc⟩ := hs
  constructor
  · intro hd
    exact harmless_of_durable hc hd
  · intro hh
    exact (step_careful hc hh).durable hc

theorem durable_iff_harmless (k : Start) (s : State) (puts : List ConfigPut) :
    Throughout step Durable (k.apply s) puts ↔ Throughout step Harmless (k.apply s) puts :=
  throughout_iff_guard kept_step step_durable_iff (start_inFile k s)

def otherImage : List Byte :=
  { (zeroed fun _ => none).config.reset with sysWatchdogTimeoutSec := 60 }.buff

theorem other_image_not_durable :
    ¬Throughout step Durable (Start.resetConfig.apply (zeroed fun _ => none))
      [.config otherImage] := by
  rintro ⟨⟨hstored | ⟨-, hconfig, -⟩, -⟩, -⟩
  · exact absurd hstored (by decide)
  · exact absurd (congrArg Config.sysWatchdogTimeoutSec hconfig) (by decide)

theorem comesBack_iff {s t : State} (hfile : t.files DataStore.sysconfigFileName = some s.config.buff) :
    t.restoreConfig.config = s.config.clearOnBoot ↔
      s.config.version = Config.defaultConfigVersion := by
  constructor
  · intro h
    by_contra hversion
    have hr : restorable t.files = false := by
      rw [Bool.eq_false_iff, Ne, restorable_iff]
      rintro ⟨c, hc, hcv⟩
      rw [Config.buff_injective (Option.some.inj (hc.symm.trans hfile))] at hcv
      exact hversion hcv
    rw [restoreConfig_of_not_restorable hr] at h
    exact hversion ((Config.version_clearOnBoot _).symm.trans (congrArg Config.version h).symm)
  · intro hversion
    rw [restoreConfig_of_file ⟨hfile, hversion⟩]

theorem image_restored_iff {buff : List Byte} (hlen : buff.length = configBuffLen) (s t : State)
    (hfile : t.files DataStore.sysconfigFileName = some (s.updateConfig buff).config.buff) :
    t.restoreConfig.config = (s.updateConfig buff).config.clearOnBoot ↔
      (Config.ofBuff buff).version = Config.defaultConfigVersion := by
  rw [comesBack_iff hfile, (updateConfig_of_length hlen s).1]
  rfl

theorem other_image_restored :
    (((zeroed fun _ => none).updateConfig otherImage).storeConfig.restoreConfig.config =
        ((zeroed fun _ => none).updateConfig otherImage).config.clearOnBoot) ↔
      (Config.ofBuff otherImage).version = Config.defaultConfigVersion :=
  image_restored_iff (Config.buff_length _) _ _ (storeConfig_file _)

def olderImage : List Byte :=
  { (zeroed fun _ => none).config.reset with version := 15 ||| 0xAA00 }.buff

theorem older_image_reset :
    ¬(((zeroed fun _ => none).updateConfig olderImage).storeConfig.restoreConfig.config =
      ((zeroed fun _ => none).updateConfig olderImage).config.clearOnBoot) := by
  intro h
  exact absurd (congrArg Config.version h) (by decide)

end ConfigPut

end SlcNode
