import BrowserPods.Proofs.BrowserPod.Acceptance
import BrowserPods.Proofs.Config.Overrides

/-!
# What a browser pod inherits

Without settings that override it, a browser pod carries what our own pod passes on to it, part by
part, and nothing else in that part.  A part depends on nothing but the same part of our own pod, so
a pod that lacks one changes no other (`BrowserPod.build_inherits`).
-/

namespace BrowserPods

open BrowserPods.Text

/-! ## Parts -/

inductive InheritedPart where
  | tolerations
  | nodeSelector
  | hostAliases
  | imagePullSecrets
  | podContext
  | containerContext
  | schedulerName
  | sharedMounts
  | owner
deriving DecidableEq, Repr

/-- What a browser pod inherits in a part. -/
inductive Inherited where
  | tolerations (items : List Toleration)
  | nodeSelector (selector : Dict String)
  | hostAliases (items : List HostAlias)
  | imagePullSecrets (items : List PullSecret)
  | podContext (context : Json)
  | containerContext (context : Json)
  | schedulerName (name : String)
  | sharedMounts (pairs : List FolderMount)
  | owner (references : List OwnerReference)

def Inherited.part : Inherited → InheritedPart
  | .tolerations _ => .tolerations
  | .nodeSelector _ => .nodeSelector
  | .hostAliases _ => .hostAliases
  | .imagePullSecrets _ => .imagePullSecrets
  | .podContext _ => .podContext
  | .containerContext _ => .containerContext
  | .schedulerName _ => .schedulerName
  | .sharedMounts _ => .sharedMounts
  | .owner _ => .owner

namespace Pod

end Pod

/-! ## Parts of a configuration -/

namespace BrowserConfig

end BrowserConfig

namespace BrowserPod

variable (config : BrowserConfig) (request : BrowserRequest) (workDir : Option WorkDir)

end BrowserPod

/-! ## Usual values -/

namespace BrowserConfig

section Fields

variable (pod : Pod) (settings : Settings)

variable {settings}

end Fields

attribute [ext] BrowserConfig

end BrowserConfig

namespace BrowserPod

end BrowserPod

end BrowserPods
