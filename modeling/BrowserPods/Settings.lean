/-!
The settings of an operator: how the cluster is reached, which pod is our own, and what differs in
the pods of browsers.
-/

namespace BrowserPods

structure Settings where
  /-- The file with the access data of the cluster. -/
  kubeconfig : Option String := none
  /-- The namespace of the pods; without one, that of the access data. -/
  namespaceName : Option String := none
  /-- The name of our own pod; without one, the name of the machine. -/
  podName : Option String := none
  /-- The container of our own pod whose security context browsers inherit. -/
  containerName : String := ""
  /-- The name of the application if our own pod carries none. -/
  appName : String := ""
  tolerations : Option String := none
  nodeSelector : Option String := none
  /-- The claim of the volume that holds the browsers' caches. -/
  persistentVolumeClaim : String := ""
  /-- Where the caches are mounted. -/
  volumeMountPath : String := ""
  imagePullPolicy : Option String := none
  cpuRequest : Option String := none
  cpuLimit : Option String := none
  memoryRequest : Option String := none
  memoryLimit : Option String := none
deriving DecidableEq, Repr

end BrowserPods
