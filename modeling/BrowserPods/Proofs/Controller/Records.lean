import BrowserPods.Controller.BrowserRequest
import BrowserPods.Controller.CreationStatus
import BrowserPods.Controller.Registration
import BrowserPods.Proofs.Json.ReadBack
import Mathlib

/-!
# Records in JSON

Requests, statuses and registrations are read back from their own texts, and what a record is read
from does not depend on the order of its fields, on fields of other names, or on whether a field
with a default is left out (`Json.Record.IsKept`).  Nothing is read from a text that lacks another
field, repeats one, or states a port that is none.
-/

namespace BrowserPods

namespace Json.Record

/-- The fields that a value has as a record: those of an object by their names, the items of an
array by their places. -/
def namedFields (names : List String) : Json → List (String × Json)
  | .object fields => fields
  | .array items => names.zip items
  | _ => []

/-- What it means that records are kept by their JSON form, which has fields of some names and
defaults for some of them. -/
structure IsKept {α : Type} (names : List String) (defaults : List (String × Json))
    (write : α → String) (read? : String → Option α) : Prop where
  restored (record : α) : read? (write record) = some record
  settled {text : String} {record : α} (read : read? text = some record) :
    read? (write record) = read? text
  reordered {text other : String} {fields others : List (String × Json)}
    (first : Json.read? text = some (.object fields))
    (second : Json.read? other = some (.object others))
    (same : (fields.filter (·.1 ∈ names)).Perm (others.filter (·.1 ∈ names))) :
    read? text = read? other
  defaulted {text other : String} {fields : List (String × Json)} {field : String × Json}
    (default : field ∈ defaults) (absent : ∀ given ∈ fields, given.1 ≠ field.1)
    (first : Json.read? text = some (.object fields))
    (second : Json.read? other = some (.object (field :: fields))) :
    read? text = read? other
  incomplete {text name : String} {value : Json} (parsed : Json.read? text = some value)
    (known : name ∈ names) (required : ∀ default ∈ defaults, default.1 ≠ name)
    (absent : ∀ given ∈ namedFields names value, given.1 ≠ name) :
    read? text = none
  repeated {text name : String} {value : Json} (parsed : Json.read? text = some value)
    (known : name ∈ names)
    (several : 1 < ((namedFields names value).filter (·.1 = name)).length) :
    read? text = none

/-! ## Reading fields -/

section Fields

variable {α : Type} {names : List String} {fields others : List (String × Json)} {name : String}
  {reader : Json → Option α} {default : Option α} {found : α}

theorem fields?_eq_some {atLeast : ℕ} {value : Json}
    (read : fields? names atLeast value = some fields) : namedFields names value = fields := by
  cases value with
  | object given =>
      cases read
      rfl
  | array items =>
      rw [fields?, Option.ite_none_right_eq_some] at read
      exact Option.some_inj.mp read.2
  | null => cases read
  | bool value => cases read
  | number value => cases read
  | string value => cases read
  | broken => cases read

/-- A field that is read is there once, or left out if it has a default. -/
theorem field?_eq_some (read : field? fields name reader default = some found) :
    (fields.filter (·.1 = name) = [] ∧ default = some found) ∨
      ∃ field, fields.filter (·.1 = name) = [field] ∧ reader field.2 = some found := by
  unfold field? at read
  split at read
  · rename_i absent
    exact .inl ⟨absent, read⟩
  · rename_i given value once
    exact .inr ⟨(given, value), once, read⟩
  · cases read

theorem field?_congr
    (same : (fields.filter (·.1 = name)).Perm (others.filter (·.1 = name))) :
    field? fields name reader default = field? others name reader default := by
  unfold field?
  cases shape : fields.filter (·.1 = name) with
  | nil =>
      rw [shape] at same
      rw [List.nil_perm.mp same]
  | cons first rest =>
      cases rest with
      | nil =>
          rw [shape] at same
          rw [List.singleton_perm.mp same]
      | cons second more =>
          have length := same.length_eq
          rw [shape] at length
          cases shape' : others.filter (·.1 = name) with
          | nil => simp [shape'] at length
          | cons first' rest' =>
              cases rest' with
              | nil => simp [shape'] at length
              | cons second' more' => rfl

theorem field?_cons_of_ne {field : String × Json} (different : field.1 ≠ name) :
    field? (field :: fields) name reader default = field? fields name reader default := by
  simp only [field?, List.filter_cons, different, decide_false, Bool.false_eq_true, if_false]

/-- Leaving a field out is as good as stating its default. -/
theorem field?_cons_of_absent {value : Json} (absent : ∀ given ∈ fields, given.1 ≠ name)
    (meant : reader value = default) :
    field? ((name, value) :: fields) name reader default = field? fields name reader default := by
  have nothing : fields.filter (·.1 = name) = [] :=
    List.filter_eq_nil_iff.mpr fun given member => by simpa using absent given member
  simp [field?, nothing, meant]

theorem once_of_required (read : field? fields name reader none = some found) :
    ∃ field, fields.filter (·.1 = name) = [field] := by
  rcases field?_eq_some read with ⟨_, without⟩ | ⟨field, once, _⟩
  · cases without
  · exact ⟨field, once⟩

theorem once_of_optional (read : field? fields name reader default = some found) :
    (∃ field, fields.filter (·.1 = name) = [field]) ∨ fields.filter (·.1 = name) = [] := by
  rcases field?_eq_some read with ⟨nothing, _⟩ | ⟨field, once, _⟩
  · exact .inr nothing
  · exact .inl ⟨field, once⟩

end Fields

/-- What reading must do with the fields of a record so that its JSON form keeps the record. -/
structure ReadsFields {α : Type} (names : List String) (defaults : List (String × Json))
    (toJson : α → Json) (ofJson? : Json → Option α) : Prop where
  exact (record : α) : Json.IsExact (toJson record)
  inverse (record : α) : ofJson? (toJson record) = some record
  congr {fields others : List (String × Json)}
    (same : ∀ name ∈ names, (fields.filter (·.1 = name)).Perm (others.filter (·.1 = name))) :
    ofJson? (.object fields) = ofJson? (.object others)
  omitted {fields : List (String × Json)} {field : String × Json} (default : field ∈ defaults)
    (absent : ∀ given ∈ fields, given.1 ≠ field.1) :
    ofJson? (.object fields) = ofJson? (.object (field :: fields))
  once {value : Json} {record : α} (read : ofJson? value = some record) {name : String}
    (known : name ∈ names) :
    (∃ field, (namedFields names value).filter (·.1 = name) = [field]) ∨
      ((namedFields names value).filter (·.1 = name) = [] ∧
        ∃ default ∈ defaults, default.1 = name)

theorem ReadsFields.isKept {α : Type} {names : List String} {defaults : List (String × Json)}
    {toJson : α → Json} {ofJson? : Json → Option α}
    (reads : ReadsFields names defaults toJson ofJson?) :
    IsKept names defaults (fun record => (toJson record).write)
      fun text => (Json.read? text).bind ofJson? := by
  have restored : ∀ record, (Json.read? (toJson record).write).bind ofJson? = some record := by
    intro record
    rw [Json.read?_write (reads.exact record), Option.bind_some, reads.inverse]
  constructor
  case restored => exact restored
  case settled =>
    intro text record read
    rw [restored, read]
  case reordered =>
    intro text other fields others first second same
    rw [first, second, Option.bind_some, Option.bind_some]
    refine reads.congr fun name known => ?_
    -- The fields of a name are among those of all names.
    have within : ∀ given : List (String × Json),
        (given.filter (·.1 ∈ names)).filter (·.1 = name) = given.filter (·.1 = name) := by
      intro given
      rw [List.filter_filter]
      refine List.filter_congr fun field _ => ?_
      by_cases named : field.1 = name
      · simp [named, known]
      · simp [named]
    rw [← within fields, ← within others]
    exact same.filter _
  case defaulted =>
    intro text other fields field default absent first second
    rw [first, second, Option.bind_some, Option.bind_some, reads.omitted default absent]
  case incomplete =>
    intro text name value parsed known required absent
    rw [parsed, Option.bind_some, Option.eq_none_iff_forall_ne_some]
    intro record read
    rcases reads.once read known with ⟨field, once⟩ | ⟨_, default, member, named⟩
    · have listed : field ∈ (namedFields names value).filter (·.1 = name) := by simp [once]
      have found := List.mem_filter.mp listed
      exact absent field found.1 (by simpa using found.2)
    · exact required default member named
  case repeated =>
    intro text name value parsed known several
    rw [parsed, Option.bind_some, Option.eq_none_iff_forall_ne_some]
    intro record read
    rcases reads.once read known with ⟨field, once⟩ | ⟨nothing, _⟩
    · simp [once] at several
    · simp [nothing] at several

end Json.Record

open Json.Record

/-! ## Requests -/

namespace BrowserRequest

theorem isExact_dictJson (d : Dict String) : Json.IsExact (dictJson d) := by
  refine .object fun field member => ?_
  obtain ⟨entry, _, rfl⟩ := List.mem_map.mp member
  exact .string _

theorem dict?_dictJson (d : Dict String) : Json.dict? Json.text? (dictJson d) = some d := by
  have shape : dictJson d = .object (d.entries.map fun entry => (entry.1, .string entry.2)) := rfl
  have read : (d.entries.map fun entry => (entry.1, Json.string entry.2)).mapM
      (fun (field : String × Json) => (Json.text? field.2).map fun text => (field.1, text)) =
        some d.entries := by
    induction d.entries with
    | nil => rfl
    | cons entry others inductionHypothesis =>
        rw [List.map_cons, List.mapM_cons, inductionHypothesis]
        rfl
  rw [shape, Json.dict?, read, Option.map_some, Dict.ofList_entries]

def defaults : List (String × Json) := [("env", .object []), ("labels", .object [])]

theorem ofJson?_eq_some_iff {value : Json} {request : BrowserRequest} :
    ofJson? value = some request ↔
      ∃ fields, fields? fieldNames 4 value = some fields ∧
        field? fields "namePrefix" Json.text? none = some request.namePrefix ∧
        field? fields "image" Json.text? none = some request.image ∧
        field? fields "env" (Json.dict? Json.text?) (some .empty) = some request.env ∧
        field? fields "nodePort" Json.text? none = some request.nodePort ∧
        field? fields "labels" (Json.dict? Json.text?) (some .empty) = some request.labels := by
  cases request
  simp [ofJson?, Option.bind_eq_some_iff]

theorem readsFields : ReadsFields fieldNames defaults toJson ofJson? := by
  constructor
  case exact =>
    intro request
    refine .object ?_
    simp only [List.mem_cons, List.not_mem_nil, or_false, forall_eq_or_imp, forall_eq]
    exact ⟨.string _, .string _, isExact_dictJson _, .string _, isExact_dictJson _⟩
  case inverse =>
    intro request
    refine ofJson?_eq_some_iff.mpr ⟨_, rfl, ?_⟩
    simp [field?, Json.text?, dict?_dictJson]
  case congr =>
    intro fields others same
    simp only [fieldNames, List.mem_cons, List.not_mem_nil, or_false, forall_eq_or_imp, forall_eq]
      at same
    obtain ⟨namePrefix, image, env, nodePort, labels⟩ := same
    refine Option.ext fun request => ?_
    simp only [ofJson?_eq_some_iff, fields?, Option.some_inj, exists_eq_left',
      field?_congr namePrefix, field?_congr image, field?_congr env, field?_congr nodePort,
      field?_congr labels]
  case omitted =>
    intro fields field default absent
    have meant : Json.dict? Json.text? (.object []) = some Dict.empty := rfl
    simp only [defaults, List.mem_cons, List.not_mem_nil, or_false] at default
    refine Option.ext fun request => ?_
    rcases default with rfl | rfl
    · simp [ofJson?_eq_some_iff, fields?, field?_cons_of_absent absent meant, field?_cons_of_ne]
    · simp [ofJson?_eq_some_iff, fields?, field?_cons_of_absent absent meant, field?_cons_of_ne]
  case once =>
    intro value request read name known
    obtain ⟨fields, given, namePrefix, image, env, nodePort, labels⟩ := ofJson?_eq_some_iff.mp read
    rw [fields?_eq_some given]
    simp only [fieldNames, List.mem_cons, List.not_mem_nil, or_false] at known
    rcases known with rfl | rfl | rfl | rfl | rfl
    · exact .inl (once_of_required namePrefix)
    · exact .inl (once_of_required image)
    · exact (once_of_optional env).imp_right fun nothing => ⟨nothing, by decide⟩
    · exact .inl (once_of_required nodePort)
    · exact (once_of_optional labels).imp_right fun nothing => ⟨nothing, by decide⟩

end BrowserRequest

/-! ## Statuses -/

namespace CreationStatus

theorem ofJson?_eq_some_iff {value : Json} {status : CreationStatus} :
    ofJson? value = some status ↔
      ∃ fields, fields? fieldNames 4 value = some fields ∧
        field? fields "isCreated" Json.bool? none = some status.isCreated ∧
        field? fields "containerName" Json.text? none = some status.containerName ∧
        field? fields "containerId" Json.text? none = some status.containerId ∧
        field? fields "nodePort" Json.text? none = some status.nodePort := by
  obtain ⟨isCreated, _, _, _⟩ := status
  cases isCreated with
  | false => simp [ofJson?, Option.bind_eq_some_iff]
  | true => simp [ofJson?, Option.bind_eq_some_iff]

theorem readsFields : ReadsFields fieldNames [] toJson ofJson? := by
  constructor
  case exact =>
    intro status
    refine .object ?_
    simp only [List.mem_cons, List.not_mem_nil, or_false, forall_eq_or_imp, forall_eq]
    exact ⟨.bool _, .string _, .string _, .string _⟩
  case inverse =>
    intro status
    refine ofJson?_eq_some_iff.mpr ⟨_, rfl, ?_⟩
    simp [field?, Json.text?, Json.bool?]
  case congr =>
    intro fields others same
    simp only [fieldNames, List.mem_cons, List.not_mem_nil, or_false, forall_eq_or_imp, forall_eq]
      at same
    obtain ⟨isCreated, containerName, containerId, nodePort⟩ := same
    refine Option.ext fun status => ?_
    simp only [ofJson?_eq_some_iff, fields?, Option.some_inj, exists_eq_left',
      field?_congr isCreated, field?_congr containerName, field?_congr containerId,
      field?_congr nodePort]
  case omitted =>
    intro fields field default
    cases default
  case once =>
    intro value status read name known
    obtain ⟨fields, given, isCreated, containerName, containerId, nodePort⟩ :=
      ofJson?_eq_some_iff.mp read
    rw [fields?_eq_some given]
    simp only [fieldNames, List.mem_cons, List.not_mem_nil, or_false] at known
    rcases known with rfl | rfl | rfl | rfl
    · exact .inl (once_of_required isCreated)
    · exact .inl (once_of_required containerName)
    · exact .inl (once_of_required containerId)
    · exact .inl (once_of_required nodePort)

end CreationStatus

/-! ## Registrations -/

namespace Registration

def defaults : List (String × Json) := [("noVncPort", .null)]

theorem ofJson?_eq_some_iff {value : Json} {registration : Registration} :
    ofJson? value = some registration ↔
      ∃ fields, fields? fieldNames 3 value = some fields ∧
        field? fields "containerId" Json.text? none = some registration.containerId ∧
        field? fields "ipAddress" Json.text? none = some registration.ipAddress ∧
        field? fields "noVncPort" (Json.nullable? Json.uint16?) (some none) =
          some registration.noVncPort := by
  cases registration
  simp [ofJson?, Option.bind_eq_some_iff]

theorem uint16?_eq_some_iff {number : Json.Number} {port : UInt16} :
    Json.uint16? (.number number) = some port ↔ number = .integer port.toNat := by
  have small : port.toNat < 65536 := port.toNat_lt
  cases number with
  | other written => simp [Json.uint16?, Json.natUpTo?, Json.intBetween?]
  | integer n =>
      simp only [Json.uint16?, Json.natUpTo?, Json.intBetween?, Json.Number.integer.injEq]
      by_cases inside : 0 ≤ n ∧ n ≤ (65535 : ℕ)
      · rw [if_pos (by simpa using inside)]
        simp only [Option.map_some, Option.some_inj, ← UInt16.toNat_inj, UInt16.toNat_ofNat']
        omega
      · rw [if_neg (by simpa using inside)]
        simp only [Option.map_none, reduceCtorEq, false_iff]
        omega

theorem nullable?_ofOption (port : Option UInt16) :
    Json.nullable? Json.uint16? (.ofOption (fun port => .nat port.toNat) port) = some port := by
  cases port with
  | none => rfl
  | some port =>
      have read : Json.uint16? (.nat port.toNat) = some port := uint16?_eq_some_iff.mpr rfl
      change (Json.uint16? (.nat port.toNat)).map some = some (some port)
      rw [read, Option.map_some]

theorem readsFields : ReadsFields fieldNames defaults toJson ofJson? := by
  constructor
  case exact =>
    intro registration
    refine .object ?_
    simp only [List.mem_cons, List.not_mem_nil, or_false, forall_eq_or_imp, forall_eq]
    refine ⟨.string _, .string _, ?_⟩
    cases registration.noVncPort with
    | none => exact .null
    | some port =>
        have small : port.toNat < 65536 := port.toNat_lt
        exact .number ⟨by omega, by simp [Text.Numeral.max64]; omega⟩
  case inverse =>
    intro registration
    refine ofJson?_eq_some_iff.mpr ⟨_, rfl, ?_⟩
    simp [field?, Json.text?, nullable?_ofOption]
  case congr =>
    intro fields others same
    simp only [fieldNames, List.mem_cons, List.not_mem_nil, or_false, forall_eq_or_imp, forall_eq]
      at same
    obtain ⟨containerId, ipAddress, noVncPort⟩ := same
    refine Option.ext fun registration => ?_
    simp only [ofJson?_eq_some_iff, fields?, Option.some_inj, exists_eq_left',
      field?_congr containerId, field?_congr ipAddress, field?_congr noVncPort]
  case omitted =>
    intro fields field default absent
    have meant : Json.nullable? Json.uint16? .null = some none := rfl
    simp only [defaults, List.mem_cons, List.not_mem_nil, or_false] at default
    subst default
    refine Option.ext fun registration => ?_
    simp [ofJson?_eq_some_iff, fields?, field?_cons_of_absent absent meant, field?_cons_of_ne]
  case once =>
    intro value registration read name known
    obtain ⟨fields, given, containerId, ipAddress, noVncPort⟩ := ofJson?_eq_some_iff.mp read
    rw [fields?_eq_some given]
    simp only [fieldNames, List.mem_cons, List.not_mem_nil, or_false] at known
    rcases known with rfl | rfl | rfl
    · exact .inl (once_of_required containerId)
    · exact .inl (once_of_required ipAddress)
    · exact (once_of_optional noVncPort).imp_right fun nothing => ⟨nothing, by decide⟩

/-- A number that is no port is not taken for one. -/
theorem ofJson?_of_noPort {value : Json} {number : Json.Number}
    (stated : ("noVncPort", .number number) ∈ namedFields fieldNames value)
    (noPort : ∀ port : UInt16, number ≠ .integer port.toNat) : ofJson? value = none := by
  rw [Option.eq_none_iff_forall_ne_some]
  intro registration read
  obtain ⟨fields, given, _, _, noVncPort⟩ := ofJson?_eq_some_iff.mp read
  rw [fields?_eq_some given] at stated
  have listed : ("noVncPort", Json.number number) ∈ fields.filter (·.1 = "noVncPort") :=
    List.mem_filter.mpr ⟨stated, decide_eq_true rfl⟩
  rcases field?_eq_some noVncPort with ⟨nothing, _⟩ | ⟨field, once, meant⟩
  · rw [nothing] at listed
    cases listed
  · rw [once, List.mem_singleton] at listed
    subst listed
    obtain ⟨port, isPort, _⟩ := Option.map_eq_some_iff.mp meant
    exact noPort port (uint16?_eq_some_iff.mp isPort)

end Registration

/-! ## All records -/

/-- Requests, statuses and registrations are kept by their JSON forms, and nothing is read from the
form of a registration that states a number other than those from 0 to 65535 as its port. -/
theorem records_survive_json :
    IsKept ["namePrefix", "image", "env", "nodePort", "labels"]
        [("env", .object []), ("labels", .object [])] BrowserRequest.write BrowserRequest.read? ∧
      IsKept ["isCreated", "containerName", "containerId", "nodePort"] []
        CreationStatus.write CreationStatus.read? ∧
      IsKept ["containerId", "ipAddress", "noVncPort"] [("noVncPort", .null)]
        Registration.write Registration.read? ∧
      ∀ (text : String) (value : Json) (number : Json.Number), Json.read? text = some value →
        ("noVncPort", .number number) ∈
          namedFields ["containerId", "ipAddress", "noVncPort"] value →
        (∀ port : UInt16, number ≠ .integer port.toNat) → Registration.read? text = none := by
  refine ⟨BrowserRequest.readsFields.isKept, CreationStatus.readsFields.isKept,
    Registration.readsFields.isKept, ?_⟩
  intro text value number parsed stated noPort
  rw [Registration.read?, parsed, Option.bind_some]
  exact Registration.ofJson?_of_noPort stated noPort

end BrowserPods
