import BrowserPods.Tar.Sparse

/-!
Reading an archive, member by member.  Members that only describe the next one are taken into it.
Reading never looks back, and a fault ends it.
-/

namespace BrowserPods.Tar

open BrowserPods.Text

structure Member where
  path : Bytes
  kind : Kind
  /-- The contents, as far as they are there. -/
  contents : Bytes
deriving DecidableEq, Repr

/-- What is said about the next member in advance. -/
structure Description where
  longName : Option Bytes := none
  longLink : Option Bytes := none
  attributes : Option Bytes := none
deriving DecidableEq, Repr

namespace Description

def isEmpty (description : Description) : Bool :=
  description.longName.isNone && description.longLink.isNone && description.attributes.isNone

/-- Adds what a member says, if it is one that describes the next member.  Nothing must be said
twice. -/
def add? (description : Description) (kind : Kind) (said : Bytes) :
    Option (Except Fault Description) :=
  match kind with
  | .longName =>
    some (if description.longName.isSome then .error .repeatedDescription
      else .ok { description with longName := some said })
  | .longLink =>
    some (if description.longLink.isSome then .error .repeatedDescription
      else .ok { description with longLink := some said })
  | .attributes =>
    some (if description.attributes.isSome then .error .repeatedDescription
      else .ok { description with attributes := some said })
  | _ => none

/-- A long name without the zero byte that may end it. -/
def withoutEnd (name : Bytes) : Bytes := if name.getLast? = some 0 then name.dropLast else name

/-- The path of a member: the long name, or else the one of the attributes, or else the one of the
header. -/
def path (description : Description) (header : Header) : Bytes :=
  match description.longName with
  | some name => withoutEnd name
  | none => (description.attributes.bind Attributes.path?).getD header.path

end Description

/-- Only headers of a known format describe the next member. -/
def describes (stored : Stored) : Bool := stored.header.isStandard || stored.header.isExtended

namespace Source

/-- The next member, with what follows it; nothing at the end of the archive. -/
def member? (source : Source) (description : Description) :
    Except Fault (Option (Member × Source)) :=
  match h : source.stored? description.attributes with
  | .error fault => .error fault
  | .ok none => if description.isEmpty then .ok none else .error .danglingDescription
  | .ok (some stored) =>
    have : stored.source.bytes.length < source.bytes.length := length_stored? h
    let contents := stored.source.data stored.size
    let kind := stored.header.kind
    match if describes stored then description.add? kind contents else none with
    | some (.error fault) => .error fault
    | some (.ok extended) => stored.source.member? extended
    | none =>
      let member : Member := { path := description.path stored.header, kind, contents }
      if kind = .sparse then
        match Sparse.readMap stored with
        | .error fault => .error fault
        | .ok after => .ok (some (member, after))
      else .ok (some (member, stored.source))
termination_by source.bytes.length

theorem length_member? {source next : Source} {description : Description} {member : Member}
    (h : source.member? description = .ok (some (member, next))) :
    next.bytes.length < source.bytes.length := by
  fun_induction Source.member? source description with
  | case1 => simp at h
  | case2 => simp at h
  | case3 => simp at h
  | case4 => simp at h
  | case5 source description stored hstored hlength contents kind extended hadd ih =>
    have := ih h
    omega
  | case6 => simp at h
  | case7 source description stored hstored hlength contents kind hadd told hkind after hmap =>
    have hafter := Sparse.length_readMap hmap
    simp only [Except.ok.injEq, Option.some.injEq, Prod.mk.injEq] at h
    obtain ⟨-, rfl⟩ := h
    omega
  | case8 source description stored hstored hlength contents kind hadd told hkind =>
    simp only [Except.ok.injEq, Option.some.injEq, Prod.mk.injEq] at h
    obtain ⟨-, rfl⟩ := h
    exact hlength

/-- The members of an archive, with the fault that ends it, if one does. -/
def members (source : Source) : List Member × Option Fault :=
  match h : source.member? {} with
  | .error fault => ([], some fault)
  | .ok none => ([], none)
  | .ok (some (member, next)) =>
    have : next.bytes.length < source.bytes.length := length_member? h
    let (rest, fault) := next.members
    (member :: rest, fault)
termination_by source.bytes.length

end Source

def read (archive : Bytes) : List Member × Option Fault := Source.members { bytes := archive }

end BrowserPods.Tar
