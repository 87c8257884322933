import BrowserPods.Dict
import BrowserPods.Files.Tree

/-!
The working directory of a browser pod on the mount that it shares with us.  Recordings and logs
have their places below it, and environment variables tell the browser where they are.
-/

namespace BrowserPods

structure WorkDir where
  root : Path
deriving DecidableEq, Repr

namespace WorkDir

def videosFolder : Path := Path.ofText "videos"

def logsFolder : Path := Path.ofText "var/log/cont"

def videos (workDir : WorkDir) : Path := workDir.root.join videosFolder

def logs (workDir : WorkDir) : Path := workDir.root.join logsFolder

def sharedDirVariable : String := "SHARED_DIR"

def videosDirVariable : String := "VIDEOS_DIR"

def logsDirVariable : String := "LOGS_DIR"

def env (workDir : WorkDir) : Dict String :=
  .ofList [(sharedDirVariable, workDir.root.display), (videosDirVariable, workDir.videos.display),
    (logsDirVariable, workDir.logs.display)]

/-- The working directory of a name below a mount. -/
def under (mountPath name : String) : WorkDir :=
  ⟨(Path.ofText mountPath).join (Path.ofText name)⟩

/-- Creates the directories of a working directory, each as far as possible, unless the root is
there already. -/
def allocate (workDir : WorkDir) (tree : FileTree) : FileTree :=
  if tree.reaches workDir.root then tree
  else [workDir.videos, workDir.logs].foldl (fun grown path => (grown.makeDirectories path).1) tree

end WorkDir

end BrowserPods
