import BrowserPods.Config.Basic
import BrowserPods.Proofs.Config.NodeSelector
import BrowserPods.Proofs.Text.Blank
import Mathlib

/-!
# Settings that override

Some settings override one part of the configuration each.  A value either puts its own choice
there, whatever is inherited, or counts as if the setting were absent
(`Override.all_or_nothing`).  A choice is read without the blanks around the value.  Only for
tolerations does this make a difference: where the first line of a list was indented, the others
still are (`Override.indented_tolerations_are_lost`).
-/

namespace BrowserPods

open BrowserPods.Text

def BrowserConfig.of (parent : Option Pod) (settings : Settings) : BrowserConfig :=
  match parent with
  | some pod => .ofPod pod settings
  | none => .withoutPod settings

/-! ## Overrides and choices -/

inductive Resource where
  | cpu
  | memory
deriving DecidableEq, Repr

/-- Whether an amount is set aside for a container or is the most that it may use. -/
inductive AmountKind where
  | request
  | limit
deriving DecidableEq, Repr

/-- The settings that override a part of the configuration. -/
inductive Override where
  | tolerations
  | nodeSelector
  | imagePullPolicy
  | amount (resource : Resource) (kind : AmountKind)
deriving DecidableEq, Repr

/-- What may stand in a configuration in place of what is inherited. -/
inductive Choice where
  | tolerations (items : List Toleration)
  | nodeSelector (selector : Dict String)
  | imagePullPolicy (policy : String)
  | amount (resource : Resource) (kind : AmountKind) (quantity : String)
deriving DecidableEq, Repr

def Resource.name : Resource → String
  | .cpu => "cpu"
  | .memory => "memory"

def Settings.override (settings : Settings) (value : Option String) : Override → Settings
  | .tolerations => { settings with tolerations := value }
  | .nodeSelector => { settings with nodeSelector := value }
  | .imagePullPolicy => { settings with imagePullPolicy := value }
  | .amount .cpu .request => { settings with cpuRequest := value }
  | .amount .cpu .limit => { settings with cpuLimit := value }
  | .amount .memory .request => { settings with memoryRequest := value }
  | .amount .memory .limit => { settings with memoryLimit := value }

/-- The configuration with a choice, of amounts with one more entry. -/
def BrowserConfig.choose (config : BrowserConfig) : Choice → BrowserConfig
  | .tolerations items => { config with tolerations := items }
  | .nodeSelector selector => { config with nodeSelector := selector }
  | .imagePullPolicy policy => { config with imagePullPolicy := policy }
  | .amount resource .request quantity =>
      { config with requests := config.requests.insert resource.name quantity }
  | .amount resource .limit quantity =>
      { config with limits := config.limits.insert resource.name quantity }

namespace Override

def tolerationsIn? (text : String) : Option (List Toleration) :=
  (Tolerations.parse text).toOption.filter fun items => !items.isEmpty

def nodeSelectorIn? (text : String) : Option (Dict String) :=
  (NodeSelector.parse text).toOption.filter fun selector => !selector.isEmpty

def read? (text : String) : Override → Option Choice
  | .tolerations => (tolerationsIn? text).map .tolerations
  | .nodeSelector => (nodeSelectorIn? text).map .nodeSelector
  | .imagePullPolicy => some (.imagePullPolicy (trimmed text))
  | .amount resource kind => some (.amount resource kind (trimmed text))

/-- The choice that a value stands for as it is written, unless it is blank. -/
def meaning? (override : Override) (value : String) : Option Choice :=
  (unlessBlank? value).bind fun _ => override.read? value

/-- The choice that is made for a value: the one that it stands for without the blanks around it. -/
def taken? (override : Override) (value : String) : Option Choice :=
  (unlessBlank? value).bind fun text => override.read? text

/-- Whether a value makes the configuration the one without it but for a choice; without a choice
the value counts as absent. -/
def HasEffect (override : Override) (value : String) (choice : Option Choice)
    (parent : Option Pod) (settings : Settings) : Prop :=
  let absent := BrowserConfig.of parent (settings.override none override)
  BrowserConfig.of parent (settings.override (some value) override) =
    (choice.map absent.choose).getD absent

end Override

/-! ## Choices made for a value -/

namespace Override

variable (value : String)

theorem taken?_tolerations :
    tolerations.taken? value =
      ((unlessBlank? value).bind tolerationsIn?).map .tolerations := by
  rw [taken?, Option.map_bind]
  rfl

theorem taken?_nodeSelector :
    nodeSelector.taken? value =
      ((unlessBlank? value).bind nodeSelectorIn?).map .nodeSelector := by
  rw [taken?, Option.map_bind]
  rfl

theorem taken?_imagePullPolicy :
    imagePullPolicy.taken? value = (unlessBlank? value).map .imagePullPolicy := by
  rw [taken?]
  cases blank : unlessBlank? value with
  | none => rfl
  | some text =>
      obtain ⟨rfl, _⟩ := unlessBlank?_eq_some.mp blank
      simp [read?]

theorem taken?_amount (resource : Resource) (kind : AmountKind) :
    (amount resource kind).taken? value =
      (unlessBlank? value).map (.amount resource kind) := by
  rw [taken?]
  cases blank : unlessBlank? value with
  | none => rfl
  | some text =>
      obtain ⟨rfl, _⟩ := unlessBlank?_eq_some.mp blank
      simp [read?]

end Override

/-! ## What is made of a value -/

namespace BrowserConfig

theorem chooseTolerations_eq (written : Option String) (inherited : List Toleration) :
    chooseTolerations written inherited =
      ((setting? written).bind Override.tolerationsIn?).getD inherited := by
  rw [chooseTolerations]
  cases setting? written with
  | none => rfl
  | some text =>
      rw [Option.map_some, Option.bind_some, Override.tolerationsIn?]
      cases Tolerations.parse text with
      | error error => rfl
      | ok items =>
          cases items with
          | nil => rfl
          | cons first others => rfl

theorem chooseNodeSelector_eq (written : Option String) (inherited : Dict String) :
    chooseNodeSelector written inherited =
      ((setting? written).bind Override.nodeSelectorIn?).getD inherited := by
  rw [chooseNodeSelector]
  cases setting? written with
  | none => rfl
  | some text =>
      rw [Option.map_some, Option.bind_some, Override.nodeSelectorIn?]
      cases NodeSelector.parse text with
      | error error => rfl
      | ok selector =>
          cases empty : selector.isEmpty with
          | false => simp [Except.toOption, Option.filter, empty]
          | true => simp [Except.toOption, Option.filter, empty]

variable (cpu memory : Option String)

theorem amounts_cpu :
    amounts cpu memory =
      ((setting? cpu).map ((amounts none memory).insert Resource.cpu.name)).getD
        (amounts none memory) := by
  have unset : setting? none = none := rfl
  refine Dict.ext_get? fun key => ?_
  rw [amounts, amounts, unset]
  cases setting? cpu with
  | none => rfl
  | some quantity =>
      cases setting? memory with
      | none => rfl
      | some other =>
          simp [Dict.ofList, Resource.name]
          grind

theorem amounts_memory :
    amounts cpu memory =
      ((setting? memory).map ((amounts cpu none).insert Resource.memory.name)).getD
        (amounts cpu none) := by
  have unset : setting? none = none := rfl
  rw [amounts, amounts, unset]
  cases setting? memory with
  | none => rfl
  | some quantity =>
      cases setting? cpu with
      | none => rfl
      | some other => rfl

/-- Of the settings only the overridden part of a configuration knows an override. -/
theorem ofSpec_override
    (appName : String) (owner : Option Owner) (spec : PodSpec) (settings : Settings)
    (override : Override) (value : String) :
    let absent := ofSpec appName owner spec (settings.override none override)
    ofSpec appName owner spec (settings.override (some value) override) =
      ((override.taken? value).map absent.choose).getD absent := by
  intro absent
  have written : setting? (some value) = unlessBlank? value := rfl
  have unset : setting? none = none := rfl
  cases override with
  | tolerations =>
      simp only [absent, ofSpec, Settings.override, chooseTolerations_eq, written, unset,
        Override.taken?_tolerations]
      cases (unlessBlank? value).bind Override.tolerationsIn? with
      | none => rfl
      | some items => rfl
  | nodeSelector =>
      simp only [absent, ofSpec, Settings.override, chooseNodeSelector_eq, written, unset,
        Override.taken?_nodeSelector]
      cases (unlessBlank? value).bind Override.nodeSelectorIn? with
      | none => rfl
      | some selector => rfl
  | imagePullPolicy =>
      simp only [absent, ofSpec, Settings.override, written, unset,
        Override.taken?_imagePullPolicy]
      cases unlessBlank? value with
      | none => rfl
      | some policy => rfl
  | amount resource kind =>
      cases resource with
      | cpu =>
          cases kind with
          | request =>
              simp only [absent, ofSpec, Settings.override, amounts_cpu (some value), written,
                Override.taken?_amount]
              cases unlessBlank? value with
              | none => rfl
              | some quantity => rfl
          | limit =>
              simp only [absent, ofSpec, Settings.override, amounts_cpu (some value), written,
                Override.taken?_amount]
              cases unlessBlank? value with
              | none => rfl
              | some quantity => rfl
      | memory =>
          cases kind with
          | request =>
              simp only [absent, ofSpec, Settings.override, amounts_memory _ (some value), written,
                Override.taken?_amount]
              cases unlessBlank? value with
              | none => rfl
              | some quantity => rfl
          | limit =>
              simp only [absent, ofSpec, Settings.override, amounts_memory _ (some value), written,
                Override.taken?_amount]
              cases unlessBlank? value with
              | none => rfl
              | some quantity => rfl

theorem of_override (parent : Option Pod) (settings : Settings) (override : Override)
    (value : String) : override.HasEffect value (override.taken? value) parent settings := by
  have sameNames : ∀ given : Option String,
      (settings.override given override).appName = settings.appName := by
    intro given
    cases override with
    | amount resource kind => cases resource <;> cases kind <;> rfl
    | _ => rfl
  cases parent with
  | none =>
      have known := ofSpec_override settings.appName none {} settings override value
      rw [Override.HasEffect, of, of, withoutPod, withoutPod, sameNames, sameNames]
      exact known
  | some pod =>
      have known := ofSpec_override ((pod.label? appKey).getD settings.appName) (ownerOf? pod)
        (pod.spec.getD {}) settings override value
      rw [Override.HasEffect, of, of, ofPod, ofPod, sameNames, sameNames]
      exact known

end BrowserConfig

/-! ## Values with blanks around them -/

namespace Override

/-- Only in a list of tolerations do blanks around the text mean anything. -/
theorem read?_trimmed {override : Override} (other : override ≠ .tolerations) (value : String) :
    override.read? (trimmed value) = override.read? value := by
  cases override with
  | tolerations => exact absurd rfl other
  | nodeSelector => simp [read?, nodeSelectorIn?]
  | imagePullPolicy => simp [read?]
  | amount resource kind => simp [read?]

theorem taken?_eq_meaning? {override : Override} {value : String}
    (alike : override.read? (trimmed value) = override.read? value) :
    override.taken? value = override.meaning? value := by
  rw [taken?, meaning?]
  cases blank : unlessBlank? value with
  | none => rfl
  | some text =>
      obtain ⟨rfl, _⟩ := unlessBlank?_eq_some.mp blank
      exact alike

theorem ne_nil_of_tolerationsIn? {text : String} {items : List Toleration}
    (found : tolerationsIn? text = some items) : items ≠ [] := by
  have kept := (Option.filter_eq_some_iff.mp found).2
  rintro rfl
  cases kept

/-- Lists that are not empty, or none, are told apart by what they make of an empty one. -/
private theorem eq_of_getD_nil_eq {first second : Option (List Toleration)}
    (firstFull : ∀ items, first = some items → items ≠ [])
    (secondFull : ∀ items, second = some items → items ≠ [])
    (same : first.getD [] = second.getD []) : first = second := by
  cases first with
  | none =>
      cases second with
      | none => rfl
      | some items => exact absurd same.symm (secondFull items rfl)
  | some items =>
      cases second with
      | none => exact absurd same (firstFull items rfl)
      | some others => exact congrArg some same

/-- Without our own pod nothing is tolerated but what the value says. -/
private theorem eq_of_hasEffect_tolerations {value : String}
    (effect : tolerations.HasEffect value (tolerations.meaning? value) none {}) :
    tolerations.taken? value = tolerations.meaning? value := by
  let taken := (unlessBlank? value).bind tolerationsIn?
  let meant := (unlessBlank? value).bind fun _ => tolerationsIn? value
  let absent := BrowserConfig.of none (Settings.override {} none .tolerations)
  have isTaken : tolerations.taken? value = taken.map .tolerations := taken?_tolerations value
  have isMeant : tolerations.meaning? value = meant.map .tolerations := by
    rw [meaning?, Option.map_bind]
    rfl
  have chosen : ∀ items : Option (List Toleration),
      (((items.map Choice.tolerations).map absent.choose).getD absent).tolerations =
        items.getD [] := by
    intro items
    cases items with
    | none => rfl
    | some items => rfl
  have same := (BrowserConfig.of_override none {} .tolerations value).symm.trans effect
  rw [isTaken, isMeant] at same
  have sameItems := congrArg BrowserConfig.tolerations same
  rw [chosen, chosen] at sameItems
  have full : ∀ (text : String → String) (items : List Toleration),
      ((unlessBlank? value).bind fun shorter => tolerationsIn? (text shorter)) = some items →
        items ≠ [] := by
    intro text items found
    obtain ⟨shorter, _, read⟩ := Option.bind_eq_some_iff.mp found
    exact ne_nil_of_tolerationsIn? read
  have alike : taken = meant := eq_of_getD_nil_eq (full id) (full fun _ => value) sameItems
  rw [isTaken, isMeant, alike]

/-- A value of an override puts the choice that is made for it into the configuration and changes
nothing else, or it counts as absent.  The choice is the one that the value stands for as it is
written exactly if blanks around the value mean nothing to it, as is so but for tolerations. -/
theorem all_or_nothing (override : Override) (value : String) :
    (∀ parent settings, override.HasEffect value (override.taken? value) parent settings) ∧
      ((∀ parent settings, override.HasEffect value (override.meaning? value) parent settings) ↔
        override.taken? value = override.meaning? value) ∧
      (override ≠ .tolerations ∨ trimmed value = value →
        override.taken? value = override.meaning? value) := by
  have effect : ∀ parent settings,
      override.HasEffect value (override.taken? value) parent settings :=
    fun parent settings => BrowserConfig.of_override parent settings override value
  have alike : override ≠ .tolerations ∨ trimmed value = value →
      override.taken? value = override.meaning? value := by
    rintro (other | plain)
    · exact taken?_eq_meaning? (read?_trimmed other value)
    · exact taken?_eq_meaning? (by rw [plain])
  refine ⟨effect, ⟨fun meant => ?_, fun same => ?_⟩, alike⟩
  · by_cases isTolerations : override = .tolerations
    · subst isTolerations
      exact eq_of_hasEffect_tolerations (meant none {})
    · exact alike (.inl isTolerations)
  · rw [← same]
    exact effect

/-! ### A list whose lines are indented -/

def indentedList : String := "  - key: a
  - key: b
"

def indentedItems : List Toleration := [{ key := some "a" }, { key := some "b" }]

def toleratingPod : Pod :=
  { spec := some { tolerations := some [{ key := some "dedicated" }] } }

/-- An indented list stands for its tolerations, and those of our own pod are kept all the same:
once the blanks in front are gone, only the first line begins at the margin. -/
theorem indented_tolerations_are_lost :
    tolerations.meaning? indentedList = some (.tolerations indentedItems) ∧
      (BrowserConfig.of (some toleratingPod)
        (Settings.override {} (some indentedList) .tolerations)).tolerations =
          [{ key := some "dedicated" }] ∧
      ¬ ∀ parent settings,
        tolerations.HasEffect indentedList (tolerations.meaning? indentedList) parent settings := by
  have written : tolerations.meaning? indentedList = some (.tolerations indentedItems) := by
    decide +kernel
  have nothing : tolerations.taken? indentedList = none := by decide +kernel
  refine ⟨written, ?_, ?_⟩
  · have effect := BrowserConfig.of_override (some toleratingPod) {} .tolerations indentedList
    rw [HasEffect, nothing] at effect
    rw [effect]
    rfl
  · intro meant
    have same := eq_of_hasEffect_tolerations (meant none {})
    rw [nothing, written] at same
    cases same

end Override

end BrowserPods
