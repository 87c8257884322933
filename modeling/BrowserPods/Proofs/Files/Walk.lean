import BrowserPods.Files.Tree
import BrowserPods.Proofs.Files.Components

/-!
# Ways through a file system

`FileTree.Way` relates a place to the directory that segments lead to from it.  A walk that ends at
a directory is such a way; walks go on from the end of a way; and a way stays one in every tree that
keeps the directories and links that it passes.
-/

namespace BrowserPods.FileTree

open BrowserPods.Text

/-! ## What is at a place -/

theorem node?_put_self
    (tree : FileTree) {place : Place} (node : FileNode) (below : place ≠ []) :
    (tree.put place node).node? place = some node := by
  simp [node?, put, below]

private theorem lookup_filter_of_ne
    {place other : Place} (different : other ≠ place) (entries : List (Place × FileNode)) :
    (entries.filter (·.1 ≠ place)).lookup other = entries.lookup other := by
  induction entries with
  | nil => rfl
  | cons entry rest inductionHypothesis =>
      obtain ⟨at', node⟩ := entry
      by_cases removed : at' = place
      · have kept : (other == at') = false := by simpa [removed] using different
        rw [List.filter_cons_of_neg (by simp [removed]), inductionHypothesis,
          List.lookup_cons, kept]
      · rw [List.filter_cons_of_pos (by simpa using removed), List.lookup_cons, List.lookup_cons,
          inductionHypothesis]

theorem node?_put_of_ne
    (tree : FileTree) {place other : Place} (node : FileNode) (different : other ≠ place) :
    (tree.put place node).node? other = tree.node? other := by
  unfold node? put
  by_cases atRoot : other = []
  · simp [atRoot]
  · have passed : (other == place) = false := by simpa using different
    rw [if_neg atRoot, if_neg atRoot, List.lookup_cons, passed]
    exact lookup_filter_of_ne different tree.entries

theorem node?_put_of_free
    {tree : FileTree} {place other : Place} {old : FileNode} (free : tree.node? place = none)
    (node : FileNode) (present : tree.node? other = some old) :
    (tree.put place node).node? other = some old := by
  rw [node?_put_of_ne tree node, present]
  rintro rfl
  cases free.symm.trans present

/-! ## Ways -/

/-- `Way tree budget place segments left top`: the segments lead from `place` to the directory
`top`.  All links are followed, which reduces the budget to `left`. -/
inductive Way (tree : FileTree) : Nat → Place → List FileName → Nat → Place → Prop
  | stay {budget : Nat} {place : Place} : Way tree budget place [] budget place
  | here {budget left : Nat} {place top : Place} {rest : List FileName} :
      tree.node? place = some .directory →
      Way tree budget place rest left top →
      Way tree budget place ([Path.dot] :: rest) left top
  | up {budget left : Nat} {place top : Place} {rest : List FileName} :
      tree.node? place = some .directory →
      Way tree budget place.dropLast rest left top →
      Way tree budget place ([Path.dot, Path.dot] :: rest) left top
  | enter {budget left : Nat} {place top : Place} {segment : FileName} {rest : List FileName} :
      tree.node? place = some .directory →
      segment ≠ [Path.dot] → segment ≠ [Path.dot, Path.dot] → segment.length ≤ nameLimit →
      tree.node? (place ++ [segment]) = some .directory →
      Way tree budget (place ++ [segment]) rest left top →
      Way tree budget place (segment :: rest) left top
  | follow {budget left : Nat} {place top : Place} {segment : FileName} {rest : List FileName}
      {target : Path} :
      tree.node? place = some .directory →
      segment ≠ [Path.dot] → segment ≠ [Path.dot, Path.dot] → segment.length ≤ nameLimit →
      tree.node? (place ++ [segment]) = some (.link target) → target ≠ [] →
      Way tree budget (start place target) (target.segments ++ rest) left top →
      Way tree (budget + 1) place (segment :: rest) left top

/-- Nothing lies behind a file. -/
private theorem top_eq_of_walk_from_file
    {tree : FileTree} {follow : Bool} {budget : Nat} {place top : Place}
    {segments : List FileName} (noDirectory : tree.node? place ≠ some .directory)
    (reached : tree.walk follow budget place segments = .ok (.present top)) : top = place := by
  cases segments with
  | nil =>
      rw [walk] at reached
      cases reached
      rfl
  | cons segment rest =>
      rw [walk, if_pos noDirectory] at reached
      cases reached

/-- A walk that ends at a directory is a way to it. -/
theorem way_of_walk
    {tree : FileTree} {budget : Nat} {place top : Place} {segments : List FileName}
    (directory : tree.node? top = some .directory)
    (reached : tree.walk true budget place segments = .ok (.present top)) :
    ∃ left, Way tree budget place segments left top := by
  fun_induction FileTree.walk tree true budget place segments with
  | case1 budget place =>
      cases reached
      exact ⟨budget, .stay⟩
  | case2 => cases reached
  | case3 budget place rest isDirectory inductionHypothesis =>
      obtain ⟨left, way⟩ := inductionHypothesis reached
      exact ⟨left, .here (Decidable.not_not.mp isDirectory) way⟩
  | case4 budget place rest isDirectory _ inductionHypothesis =>
      obtain ⟨left, way⟩ := inductionHypothesis reached
      exact ⟨left, .up (Decidable.not_not.mp isDirectory) way⟩
  | case5 => cases reached
  | case6 => cases reached
  | case7 => cases reached
  | case8 budget place segment rest isDirectory notHere notUp short target isLink final =>
      simp at final
  | case9 => cases reached
  | case10 => cases reached
  | case11 place segment rest isDirectory notHere notUp short target isLink _ budget nonempty
      inductionHypothesis =>
      obtain ⟨left, way⟩ := inductionHypothesis reached
      exact ⟨left, .follow (Decidable.not_not.mp isDirectory) notHere notUp (Nat.not_lt.mp short)
        isLink (by simpa using nonempty) way⟩
  | case12 budget place segment rest isDirectory notHere notUp short node noLink found
      inductionHypothesis =>
      obtain ⟨left, way⟩ := inductionHypothesis reached
      have entered : tree.node? (place ++ [segment]) = some .directory := by
        by_cases isDirectory' : tree.node? (place ++ [segment]) = some .directory
        · exact isDirectory'
        · rw [top_eq_of_walk_from_file isDirectory' reached] at directory
          exact directory
      exact ⟨left, .enter (Decidable.not_not.mp isDirectory) notHere notUp (Nat.not_lt.mp short)
        entered way⟩

/-- What a walk does where it goes into a directory. -/
theorem walk_enter
    {tree : FileTree} (follow : Bool) (budget : Nat) {place : Place} {segment : FileName}
    (rest : List FileName) (directory : tree.node? place = some .directory)
    (notHere : segment ≠ [Path.dot]) (notUp : segment ≠ [Path.dot, Path.dot])
    (short : segment.length ≤ nameLimit)
    (entered : tree.node? (place ++ [segment]) = some .directory) :
    tree.walk follow budget place (segment :: rest) =
      tree.walk follow budget (place ++ [segment]) rest := by
  rw [walk, if_neg (by simp [directory]), if_neg notHere, if_neg notUp,
    if_neg (Nat.not_lt.mpr short), entered]

/-- What a walk does at a link on its way. -/
theorem walk_follow
    {tree : FileTree} (follow : Bool) (budget : Nat) {place : Place} {segment : FileName}
    {rest : List FileName} {target : Path} (directory : tree.node? place = some .directory)
    (notHere : segment ≠ [Path.dot]) (notUp : segment ≠ [Path.dot, Path.dot])
    (short : segment.length ≤ nameLimit)
    (isLink : tree.node? (place ++ [segment]) = some (.link target)) (nonempty : target ≠ [])
    (goesOn : rest ≠ [] ∨ follow = true) :
    tree.walk follow (budget + 1) place (segment :: rest) =
      tree.walk follow budget (start place target) (target.segments ++ rest) := by
  have notLeft : (rest.isEmpty && !follow) = false := by
    rcases goesOn with more | follows
    · simp [more]
    · simp [follows]
  rw [walk, if_neg (by simp [directory]), if_neg notHere, if_neg notUp,
    if_neg (Nat.not_lt.mpr short), isLink]
  simp [nonempty, notLeft]

/-- A walk along a way and further goes on from its end. -/
theorem Way.walk_append
    {tree : FileTree} {budget left : Nat} {place top : Place} {segments : List FileName}
    (way : Way tree budget place segments left top) (follow : Bool)
    {more : List FileName} (goesOn : more ≠ [] ∨ follow = true) :
    tree.walk follow budget place (segments ++ more) = tree.walk follow left top more := by
  induction way with
  | stay => rfl
  | here directory _ inductionHypothesis =>
      rw [List.cons_append, walk, if_neg (by simp [directory]), if_pos rfl]
      exact inductionHypothesis
  | up directory _ inductionHypothesis =>
      rw [List.cons_append, walk, if_neg (by simp [directory]), if_neg (by decide), if_pos rfl]
      exact inductionHypothesis
  | enter directory notHere notUp short entered _ inductionHypothesis =>
      rw [List.cons_append, walk_enter follow _ _ directory notHere notUp short entered]
      exact inductionHypothesis
  | follow directory notHere notUp short isLink targeted _ inductionHypothesis =>
      rw [List.cons_append, walk_follow follow _ directory notHere notUp short isLink targeted
        (goesOn.imp_left fun nonempty => by simp [nonempty]), ← List.append_assoc]
      exact inductionHypothesis

/-- A walk along a way that follows the link at its end, if one is there, ends where it does. -/
theorem Way.walk_eq
    {tree : FileTree} {budget left : Nat} {place top : Place} {segments : List FileName}
    (way : Way tree budget place segments left top) :
    tree.walk true budget place segments = .ok (.present top) := by
  rw [← List.append_nil segments, way.walk_append true (.inr rfl), walk]

/-- A way passes the end of each of its beginnings. -/
theorem Way.split
    {tree : FileTree} {budget left : Nat} {place top : Place} (front : List FileName)
    {back : List FileName} (way : Way tree budget place (front ++ back) left top) :
    ∃ between middle, Way tree budget place front between middle ∧
      Way tree between middle back left top := by
  generalize shape : front ++ back = segments at way
  induction way generalizing front with
  | stay =>
      obtain ⟨rfl, rfl⟩ := List.append_eq_nil_iff.mp shape
      exact ⟨_, _, .stay, .stay⟩
  | here directory rest inductionHypothesis =>
      rcases List.append_eq_cons_iff.mp shape with ⟨rfl, rfl⟩ | ⟨shorter, rfl, rfl⟩
      · exact ⟨_, _, .stay, .here directory rest⟩
      · obtain ⟨between, middle, before, after⟩ := inductionHypothesis shorter rfl
        exact ⟨between, middle, .here directory before, after⟩
  | up directory rest inductionHypothesis =>
      rcases List.append_eq_cons_iff.mp shape with ⟨rfl, rfl⟩ | ⟨shorter, rfl, rfl⟩
      · exact ⟨_, _, .stay, .up directory rest⟩
      · obtain ⟨between, middle, before, after⟩ := inductionHypothesis shorter rfl
        exact ⟨between, middle, .up directory before, after⟩
  | enter directory notHere notUp short entered rest inductionHypothesis =>
      rcases List.append_eq_cons_iff.mp shape with ⟨rfl, rfl⟩ | ⟨shorter, rfl, rfl⟩
      · exact ⟨_, _, .stay, .enter directory notHere notUp short entered rest⟩
      · obtain ⟨between, middle, before, after⟩ := inductionHypothesis shorter rfl
        exact ⟨between, middle, .enter directory notHere notUp short entered before, after⟩
  | follow directory notHere notUp short isLink targeted rest inductionHypothesis =>
      rcases List.append_eq_cons_iff.mp shape with ⟨rfl, rfl⟩ | ⟨shorter, rfl, rfl⟩
      · exact ⟨_, _, .stay, .follow directory notHere notUp short isLink targeted rest⟩
      · obtain ⟨between, middle, before, after⟩ :=
          inductionHypothesis _ (List.append_assoc _ shorter back)
        exact ⟨between, middle, .follow directory notHere notUp short isLink targeted before,
          after⟩

/-- A way to a directory begins at one. -/
theorem Way.directory_of_top
    {tree : FileTree} {budget left : Nat} {place top : Place} {segments : List FileName}
    (way : Way tree budget place segments left top)
    (directory : tree.node? top = some .directory) : tree.node? place = some .directory := by
  cases way with
  | stay => exact directory
  | here isDirectory => exact isDirectory
  | up isDirectory => exact isDirectory
  | enter isDirectory => exact isDirectory
  | follow isDirectory => exact isDirectory

/-- A way leads past nothing that is absent. -/
theorem Way.walk_ne_absent
    {tree : FileTree} {budget left : Nat} {place top : Place} {whole : List FileName}
    (way : Way tree budget place whole left top) (follow : Bool)
    {beginning : List FileName} (initial : beginning <+: whole) (free : Place) :
    tree.walk follow budget place beginning ≠ .ok (.absent free) := by
  induction way generalizing beginning with
  | stay =>
      rw [List.prefix_nil.mp initial, walk]
      simp
  | here directory _ inductionHypothesis =>
      rcases List.prefix_cons_iff.mp initial with rfl | ⟨shorter, rfl, shorterInitial⟩
      · simp [walk]
      · rw [walk, if_neg (by simp [directory]), if_pos rfl]
        exact inductionHypothesis shorterInitial
  | up directory _ inductionHypothesis =>
      rcases List.prefix_cons_iff.mp initial with rfl | ⟨shorter, rfl, shorterInitial⟩
      · simp [walk]
      · rw [walk, if_neg (by simp [directory]), if_neg (by decide), if_pos rfl]
        exact inductionHypothesis shorterInitial
  | enter directory notHere notUp short entered _ inductionHypothesis =>
      rcases List.prefix_cons_iff.mp initial with rfl | ⟨shorter, rfl, shorterInitial⟩
      · simp [walk]
      · rw [walk_enter follow _ _ directory notHere notUp short entered]
        exact inductionHypothesis shorterInitial
  | follow directory notHere notUp short isLink targeted _ inductionHypothesis =>
      rcases List.prefix_cons_iff.mp initial with rfl | ⟨shorter, rfl, shorterInitial⟩
      · simp [walk]
      · -- Only a link at the end may be left as it is, and then it is present.
        by_cases final : (shorter.isEmpty && !follow) = true
        · rw [walk, if_neg (by simp [directory]), if_neg notHere, if_neg notUp,
            if_neg (Nat.not_lt.mpr short), isLink]
          simp [final]
        · rw [walk, if_neg (by simp [directory]), if_neg notHere, if_neg notUp,
            if_neg (Nat.not_lt.mpr short), isLink]
          simp only [final, List.isEmpty_iff, targeted, Bool.false_eq_true, if_false]
          exact inductionHypothesis ((List.prefix_append_right_inj _).mpr shorterInitial)

/-- Dots lead nowhere, so a way stays one without them. -/
theorem Way.filter_dots
    {tree : FileTree} {budget left : Nat} {place top : Place} (front back : List FileName)
    (way : Way tree budget place (front ++ back) left top) :
    Way tree budget place (front ++ back.filter (· ≠ [Path.dot])) left top := by
  generalize shape : front ++ back = segments at way
  induction way generalizing front back with
  | stay =>
      obtain ⟨rfl, rfl⟩ := List.append_eq_nil_iff.mp shape
      exact .stay
  | here directory _ inductionHypothesis =>
      rcases List.append_eq_cons_iff.mp shape with ⟨rfl, rfl⟩ | ⟨shorter, rfl, rfl⟩
      · rw [List.filter_cons_of_neg (by simp)]
        exact inductionHypothesis [] _ rfl
      · exact .here directory (inductionHypothesis _ _ rfl)
  | up directory _ inductionHypothesis =>
      rcases List.append_eq_cons_iff.mp shape with ⟨rfl, rfl⟩ | ⟨shorter, rfl, rfl⟩
      · rw [List.filter_cons_of_pos (by decide)]
        exact .up directory (inductionHypothesis [] _ rfl)
      · exact .up directory (inductionHypothesis _ _ rfl)
  | enter directory notHere notUp short entered _ inductionHypothesis =>
      rcases List.append_eq_cons_iff.mp shape with ⟨rfl, rfl⟩ | ⟨shorter, rfl, rfl⟩
      · rw [List.filter_cons_of_pos (by simpa using notHere)]
        exact .enter directory notHere notUp short entered (inductionHypothesis [] _ rfl)
      · exact .enter directory notHere notUp short entered (inductionHypothesis _ _ rfl)
  | follow directory notHere notUp short isLink targeted _ inductionHypothesis =>
      rcases List.append_eq_cons_iff.mp shape with ⟨rfl, rfl⟩ | ⟨shorter, rfl, rfl⟩
      · rw [List.filter_cons_of_pos (by simpa using notHere)]
        exact .follow directory notHere notUp short isLink targeted (inductionHypothesis _ _ rfl)
      · have further := inductionHypothesis _ _ (List.append_assoc _ shorter back)
        rw [List.append_assoc] at further
        exact .follow directory notHere notUp short isLink targeted further

/-- A way that goes into directories alone leads to the place that its names spell. -/
theorem Way.top_eq_of_no_links
    {tree : FileTree} {budget left : Nat} {place top : Place} {segments : List FileName}
    (way : Way tree budget place segments left top) (noUp : [Path.dot, Path.dot] ∉ segments)
    (noLinks : ∀ names, names <+: segments.filter (· ≠ [Path.dot]) →
      ∀ aim, tree.node? (place ++ names) ≠ some (.link aim)) :
    top = place ++ segments.filter (· ≠ [Path.dot]) := by
  induction way with
  | stay => simp
  | here directory _ inductionHypothesis =>
      rw [List.filter_cons_of_neg (by simp)] at noLinks ⊢
      exact inductionHypothesis (fun member => noUp (List.mem_cons_of_mem _ member)) noLinks
  | up directory _ _ => exact absurd List.mem_cons_self noUp
  | enter directory notHere notUp short entered _ inductionHypothesis =>
      rw [List.filter_cons_of_pos (by simpa using notHere)] at noLinks ⊢
      have further := inductionHypothesis (fun member => noUp (List.mem_cons_of_mem _ member))
        fun names initial aim => by
          rw [List.append_assoc]
          exact noLinks _ ((List.prefix_cons_inj _).mpr initial) aim
      rw [further, List.append_assoc]
      rfl
  | follow directory notHere notUp short isLink targeted _ _ =>
      rw [List.filter_cons_of_pos (by simpa using notHere)] at noLinks
      exact absurd isLink (noLinks [_] (by simp) _)

theorem node?_of_walk_absent
    {tree : FileTree} {follow : Bool} {budget : Nat} {place free : Place}
    {segments : List FileName}
    (reached : tree.walk follow budget place segments = .ok (.absent free)) :
    tree.node? free = none := by
  fun_induction FileTree.walk tree follow budget place segments with
  | case6 budget place segment rest _ _ _ _ nothing _ =>
      cases reached
      exact nothing
  | case3 _ _ _ _ inductionHypothesis => exact inductionHypothesis reached
  | case4 _ _ _ _ _ inductionHypothesis => exact inductionHypothesis reached
  | case11 _ _ _ _ _ _ _ _ _ _ _ _ inductionHypothesis => exact inductionHypothesis reached
  | case12 _ _ _ _ _ _ _ _ _ _ _ inductionHypothesis => exact inductionHypothesis reached
  | _ => cases reached

/-- Nothing is free behind a file. -/
theorem directory_of_walk_absent
    {tree : FileTree} {follow : Bool} {budget : Nat} {place free : Place}
    {segments : List FileName}
    (reached : tree.walk follow budget place segments = .ok (.absent free)) :
    tree.node? place = some .directory := by
  cases segments with
  | nil =>
      rw [walk] at reached
      cases reached
  | cons segment rest =>
      rw [walk] at reached
      split at reached
      · cases reached
      · rename_i isDirectory
        exact Decidable.not_not.mp isDirectory

/-- A walk to a free name becomes a way to it when a directory is put there. -/
theorem way_of_walk_absent
    {tree : FileTree} {follow : Bool} {budget : Nat} {place free : Place}
    {segments : List FileName}
    (reached : tree.walk follow budget place segments = .ok (.absent free)) :
    ∃ left, Way (tree.put free .directory) budget place segments left free := by
  have kept : ∀ other node, tree.node? other = some node →
      (tree.put free .directory).node? other = some node :=
    fun _ _ => node?_put_of_free (node?_of_walk_absent reached) .directory
  fun_induction FileTree.walk tree follow budget place segments with
  | case3 budget place rest isDirectory inductionHypothesis =>
      obtain ⟨left, way⟩ := inductionHypothesis reached
      exact ⟨left, .here (kept _ _ (Decidable.not_not.mp isDirectory)) way⟩
  | case4 budget place rest isDirectory _ inductionHypothesis =>
      obtain ⟨left, way⟩ := inductionHypothesis reached
      exact ⟨left, .up (kept _ _ (Decidable.not_not.mp isDirectory)) way⟩
  | case6 budget place segment rest isDirectory notHere notUp short nothing final =>
      cases reached
      rw [List.isEmpty_iff.mp final]
      exact ⟨budget, .enter (kept _ _ (Decidable.not_not.mp isDirectory)) notHere notUp
        (Nat.not_lt.mp short) (node?_put_self tree .directory (by simp)) .stay⟩
  | case11 place segment rest isDirectory notHere notUp short target isLink _ budget nonempty
      inductionHypothesis =>
      obtain ⟨left, way⟩ := inductionHypothesis reached
      exact ⟨left, .follow (kept _ _ (Decidable.not_not.mp isDirectory)) notHere notUp
        (Nat.not_lt.mp short) (kept _ _ isLink) (by simpa using nonempty) way⟩
  | case12 budget place segment rest isDirectory notHere notUp short node noLink found
      inductionHypothesis =>
      have entered := kept _ _ (directory_of_walk_absent reached)
      obtain ⟨left, way⟩ := inductionHypothesis reached
      exact ⟨left, .enter (kept _ _ (Decidable.not_not.mp isDirectory)) notHere notUp
        (Nat.not_lt.mp short) entered way⟩
  | _ => cases reached

/-- A way stays one where the directories and links stay. -/
theorem Way.of_persistent
    {tree after : FileTree} {budget left : Nat} {place top : Place} {segments : List FileName}
    (way : Way tree budget place segments left top)
    (directories : ∀ place, tree.node? place = some .directory →
      after.node? place = some .directory)
    (links : ∀ place target, tree.node? place = some (.link target) →
      after.node? place = some (.link target)) :
    Way after budget place segments left top := by
  induction way with
  | stay => exact .stay
  | here directory _ inductionHypothesis =>
      exact .here (directories _ directory) inductionHypothesis
  | up directory _ inductionHypothesis =>
      exact .up (directories _ directory) inductionHypothesis
  | enter directory notHere notUp short entered _ inductionHypothesis =>
      exact .enter (directories _ directory) notHere notUp short (directories _ entered)
        inductionHypothesis
  | follow directory notHere notUp short isLink targeted _ inductionHypothesis =>
      exact .follow (directories _ directory) notHere notUp short (links _ _ isLink) targeted
        inductionHypothesis

/-! ## Below a directory -/

def Below (top place : Place) : Prop := ∃ name names, place = top ++ name :: names

theorem below_append {top : Place} {names : List FileName} (nonempty : names ≠ []) :
    Below top (top ++ names) := by
  cases names with
  | nil => exact absurd rfl nonempty
  | cons name others => exact ⟨name, others, rfl⟩

theorem Below.ne_root {top place : Place} (below : Below top place) : place ≠ [] := by
  obtain ⟨name, names, rfl⟩ := below
  simp

def Target.place : Target → Place
  | .present place => place
  | .absent place => place

/-- A walk ends where it did in a tree that keeps the directories and links that it passes, if there
is something other than a link at the end. -/
theorem walk_of_persistent
    {tree after : FileTree} {budget : Nat} {place : Place} {segments : List FileName}
    {target : Target} {node : FileNode}
    (reached : tree.walk true budget place segments = .ok target)
    (directories : ∀ place, tree.node? place = some .directory →
      after.node? place = some .directory)
    (links : ∀ place aim, tree.node? place = some (.link aim) →
      after.node? place = some (.link aim))
    (present : after.node? target.place = some node) (noLink : ∀ aim, node ≠ .link aim) :
    after.walk true budget place segments = .ok (.present target.place) := by
  -- What is neither a link nor absent is entered, whatever it is.
  have enters : ∀ {budget : Nat} {place : Place} {segment : FileName} (rest : List FileName),
      tree.node? place = some .directory → segment ≠ [Path.dot] →
      segment ≠ [Path.dot, Path.dot] → ¬ nameLimit < segment.length →
      ∀ {other : FileNode}, after.node? (place ++ [segment]) = some other →
      (∀ aim, other ≠ .link aim) →
      after.walk true budget place (segment :: rest) =
        after.walk true budget (place ++ [segment]) rest := by
    intro budget place segment rest directory notHere notUp short other found isPlain
    rw [walk, if_neg (by simp [directories _ directory]), if_neg notHere, if_neg notUp,
      if_neg short, found]
    cases other with
    | file contents => rfl
    | directory => rfl
    | link aim => exact absurd rfl (isPlain aim)
  fun_induction FileTree.walk tree true budget place segments with
  | case1 budget place =>
      cases reached
      rw [walk]
      rfl
  | case3 budget place rest isDirectory inductionHypothesis =>
      have directory := directories _ (Decidable.not_not.mp isDirectory)
      rw [walk, if_neg (by simp [directory]), if_pos rfl]
      exact inductionHypothesis reached
  | case4 budget place rest isDirectory _ inductionHypothesis =>
      have directory := directories _ (Decidable.not_not.mp isDirectory)
      rw [walk, if_neg (by simp [directory]), if_neg (by decide), if_pos rfl]
      exact inductionHypothesis reached
  | case6 budget place segment rest isDirectory notHere notUp short nothing final =>
      cases reached
      rw [List.isEmpty_iff.mp final]
      rw [enters [] (Decidable.not_not.mp isDirectory) notHere notUp short present noLink, walk]
      rfl
  | case8 budget place segment rest isDirectory notHere notUp short target isLink final =>
      simp at final
  | case11 place segment rest isDirectory notHere notUp short aim isLink _ budget nonempty
      inductionHypothesis =>
      have directory := directories _ (Decidable.not_not.mp isDirectory)
      rw [walk_follow true budget directory notHere notUp (Nat.not_lt.mp short) (links _ _ isLink)
        (by simpa using nonempty) (.inr rfl)]
      exact inductionHypothesis reached
  | case12 budget place segment rest isDirectory notHere notUp short other isPlain found
      inductionHypothesis =>
      have later := inductionHypothesis reached
      have goesOn : ∃ entered, after.node? (place ++ [segment]) = some entered ∧
          ∀ aim, entered ≠ .link aim := by
        by_cases isDirectory' : tree.node? (place ++ [segment]) = some .directory
        · exact ⟨.directory, directories _ isDirectory', by simp⟩
        · -- Nothing lies behind a file, so the walk ends at it.
          cases rest with
          | nil =>
              rw [walk] at reached
              cases reached
              exact ⟨node, present, noLink⟩
          | cons next others =>
              rw [walk, if_pos isDirectory'] at reached
              cases reached
      obtain ⟨entered, isEntered, notLink⟩ := goesOn
      rw [enters rest (Decidable.not_not.mp isDirectory) notHere notUp short isEntered notLink]
      exact later
  | _ => cases reached

/-- Where there are no links, names lead to the place that they spell. -/
theorem place_of_walk_names
    {tree : FileTree} {follow : Bool} {budget : Nat} {top : Place} {names : List FileName}
    {target : Target} (valid : ∀ name ∈ names, Path.IsName name)
    (noLinks : ∀ place, Below top place → ∀ aim, tree.node? place ≠ some (.link aim))
    (reached : tree.walk follow budget top names = .ok target) :
    target.place = top ++ names := by
  induction names generalizing top with
  | nil =>
      rw [walk] at reached
      cases reached
      simp [Target.place]
  | cons name rest inductionHypothesis =>
      have isName := valid name (by simp)
      have below : Below top (top ++ [name]) := below_append (by simp)
      rw [walk] at reached
      split at reached
      · cases reached
      · rw [if_neg isName.notHere, if_neg isName.notUp] at reached
        split at reached
        · cases reached
        · cases found : tree.node? (top ++ [name]) with
          | none =>
              simp only [found] at reached
              split at reached
              · rename_i final
                cases reached
                simp [Target.place, List.isEmpty_iff.mp final]
              · cases reached
          | some node =>
              have deeper : ∀ place, Below (top ++ [name]) place →
                  ∀ aim, tree.node? place ≠ some (.link aim) := by
                rintro place ⟨next, others, rfl⟩ aim
                exact noLinks _ ⟨name, next :: others, by simp⟩ aim
              cases node with
              | link aim => exact absurd found (noLinks _ below aim)
              | file contents =>
                  simp only [found] at reached
                  rw [inductionHypothesis (fun other listed => valid other (by simp [listed]))
                    deeper reached]
                  simp
              | directory =>
                  simp only [found] at reached
                  rw [inductionHypothesis (fun other listed => valid other (by simp [listed]))
                    deeper reached]
                  simp

end BrowserPods.FileTree
