import BrowserPods.Client.Basic
import BrowserPods.CommandLine.Basic
import BrowserPods.Proofs.Config.Overrides

/-!
# Settings that count as they are written

A namespace, and the settings for which the command line declares a value, are taken as they are,
even if they are blank.  A client for a blank namespace asks there, and a blank setting gives the
configuration of its declared value only where the configuration does not depend on it
(`Client.blank_setting_is_kept`).
-/

namespace BrowserPods

open BrowserPods.Text

/-- The settings for which the command line declares a value. -/
inductive PlainSetting where
  | containerName
  | appName
  | persistentVolumeClaim
  | volumeMountPath
deriving DecidableEq, Repr

namespace PlainSetting

/-- The option that gives a setting. -/
def optionName : PlainSetting → String
  | .containerName => "container-name"
  | .appName => "app-name"
  | .persistentVolumeClaim => "persistent-volume-claim"
  | .volumeMountPath => "volume-mount-path"

/-- The value that the command line declares for a setting. -/
def declared (setting : PlainSetting) : String :=
  ((CommandLine.settingOptions.find? (·.name = setting.optionName)).bind (·.default)).getD ""

end PlainSetting

/-- The settings with another value of one that counts as it is written. -/
def Settings.write (settings : Settings) (value : String) : PlainSetting → Settings
  | .containerName => { settings with containerName := value }
  | .appName => { settings with appName := value }
  | .persistentVolumeClaim => { settings with persistentVolumeClaim := value }
  | .volumeMountPath => { settings with volumeMountPath := value }

namespace BrowserConfig

/-- The security context that our own pod has for the containers of a name. -/
def inheritedContext (parent : Option Pod) (containerName : String) : Option Json :=
  parent.bind fun pod => securityContextOf (pod.spec.getD {}) containerName

/-- The configuration with what a value of a setting puts into it. -/
def fill (parent : Option Pod) (config : BrowserConfig) (value : String) :
    PlainSetting → BrowserConfig
  | .containerName => { config with containerSecurityContext := inheritedContext parent value }
  | .appName => { config with appName := (parent.bind (·.label? appKey)).getD value }
  | .persistentVolumeClaim => { config with persistentVolumeClaim := value }
  | .volumeMountPath => { config with cacheMountPath := value }

theorem of_write (parent : Option Pod) (settings : Settings) (value : String)
    (setting : PlainSetting) :
    of parent (settings.write value setting) = (of parent settings).fill parent value setting := by
  cases parent with
  | none => cases setting <;> rfl
  | some pod => cases setting <;> rfl

end BrowserConfig

/-- Whether our own pod leaves no use for a setting, at least for two values of it. -/
def PlainSetting.IsIdle (parent : Option Pod) (value other : String) : PlainSetting → Prop
  | .containerName =>
      BrowserConfig.inheritedContext parent value = BrowserConfig.inheritedContext parent other
  | .appName => ∃ pod, parent = some pod ∧ (pod.label? "app").isSome
  | .persistentVolumeClaim => False
  | .volumeMountPath => False

namespace BrowserConfig

private theorem getD_label_eq_iff
    {value other : String} (different : value ≠ other) (parent : Option Pod) :
    (parent.bind (·.label? appKey)).getD value = (parent.bind (·.label? appKey)).getD other ↔
      ∃ pod, parent = some pod ∧ (pod.label? "app").isSome := by
  cases parent with
  | none => simp [different]
  | some pod =>
      rw [Option.bind_some, show pod.label? appKey = pod.label? "app" from rfl]
      cases label : pod.label? "app" with
      | none => simp [different, label]
      | some name => simp [label]

/-- Two values of a setting give one configuration exactly if there is no use for the setting. -/
theorem of_write_eq_iff
    {value other : String} (different : value ≠ other) (parent : Option Pod) (settings : Settings)
    (setting : PlainSetting) :
    of parent (settings.write value setting) = of parent (settings.write other setting) ↔
      setting.IsIdle parent value other := by
  rw [of_write, of_write]
  cases setting with
  | containerName => simp [fill, PlainSetting.IsIdle]
  | appName => simpa [fill, PlainSetting.IsIdle] using getD_label_eq_iff different parent
  | persistentVolumeClaim => simp [fill, PlainSetting.IsIdle, different]
  | volumeMountPath => simp [fill, PlainSetting.IsIdle, different]

end BrowserConfig

/-! ## Blank settings -/

theorem PlainSetting.ne_declared {value : String} (blank : trimmed value = "")
    (setting : PlainSetting) : value ≠ setting.declared := by
  rintro rfl
  revert blank
  cases setting <;> decide

namespace Client

/-- A blank setting is kept as it is.  A blank namespace makes a client start as it would without
one where that text is the usual namespace.  A blank value of another setting gives the
configuration of the value that the command line declares exactly if our own pod leaves no use for
the setting, and so never for the claim of the caches and the place where they are mounted. -/
theorem blank_setting_is_kept
    (value : String) (blank : trimmed value = "") (settings : Settings) :
    (∀ usualNamespace machineName world,
      let blankOne := { settings with namespaceName := some value }
      let without := { settings with namespaceName := none }
      start usualNamespace machineName blankOne world = start value machineName without world ∧
        ((start usualNamespace machineName blankOne world).2.namespaceName =
            (start usualNamespace machineName without world).2.namespaceName ↔
          value = usualNamespace)) ∧
      ∀ parent setting,
        BrowserConfig.of parent (settings.write value setting) =
            BrowserConfig.of parent (settings.write setting.declared setting) ↔
          setting.IsIdle parent value setting.declared := by
  refine ⟨?_, ?_⟩
  · intro usualNamespace machineName world blankOne without
    exact ⟨rfl, Iff.rfl⟩
  · intro parent setting
    exact BrowserConfig.of_write_eq_iff (setting.ne_declared blank) parent settings setting

/-! ### Blank settings from the environment -/

/-- Our own pod with a label for the application. -/
def labelledPod : Pod :=
  { metadata := { labels := some (.ofList [("app", "grid-hub")]) } }

/-- The name of the application is not used where our own pod carries one. -/
theorem blank_appName_is_idle :
    trimmed " \t" = "" ∧
      BrowserConfig.of (some labelledPod) (Settings.write {} " \t" .appName) =
        BrowserConfig.of (some labelledPod) (Settings.write {} "grid" .appName) := by
  have blank : trimmed " \t" = "" := by decide
  have idle : PlainSetting.appName.IsIdle (some labelledPod) " \t" "grid" :=
    ⟨labelledPod, rfl, by decide⟩
  exact ⟨blank, ((blank_setting_is_kept " \t" blank {}).2 (some labelledPod) .appName).mpr idle⟩

/-- An environment where one variable is set, to a blank text. -/
def blankEnv (envVariable : String) (name : String) : Option String :=
  if name = envVariable then some " " else none

/-- The settings that the command line gives a sweep without arguments. -/
def sweepSettings? (env : String → Option String) : Option Settings :=
  match CommandLine.read ["sweep"] env with
  | .ok { command := .sweep settings, .. } => some settings
  | _ => none

/-- The claim of the caches without our own pod. -/
def claimFor? (env : String → Option String) : Option String :=
  (sweepSettings? env).map fun settings => (BrowserConfig.of none settings).persistentVolumeClaim

/-- The namespace of a client whose usual one is `default`. -/
def namespaceFor? (env : String → Option String) : Option String :=
  (sweepSettings? env).map fun settings =>
    (start "default" "grid-hub-0" settings { freshName := fun _ => "" }).2.namespaceName

/-- A blank claim in the environment is taken for the name of a claim, and a blank namespace for the
name of a namespace. -/
theorem blank_claim_differs_from_declared :
    claimFor? (blankEnv "GRID_PERSISTENT_VOLUME_CLAIM") = some " " ∧
      claimFor? (fun _ => none) = some "browsercache-pvc" ∧
      namespaceFor? (blankEnv "POD_NAMESPACE") = some " " ∧
      namespaceFor? (fun _ => none) = some "default" := by
  refine ⟨?_, ?_, ?_, ?_⟩
  · decide +kernel
  · decide +kernel
  · decide +kernel
  · decide +kernel

end Client

end BrowserPods
