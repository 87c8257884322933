import BrowserPods.Files.Path
import BrowserPods.Proofs.Text.Utf8

/-!
# Paths written as texts

A path that is joined from texts is a text itself (`Path.ofText_joinText`), so nothing is lost when
it is shown to people or handed over as the value of a variable.
-/

namespace BrowserPods.Path

open BrowserPods.Text

@[simp]
theorem display_ofText (text : String) : (ofText text).display = text :=
  Utf8.decodeLossy_encode text

theorem ofText_injective : Function.Injective ofText := Utf8.encode_injective

theorem ofText_append (front back : String) :
    ofText (front ++ back) = ofText front ++ ofText back :=
  Utf8.encode_append front back

theorem toNat_eq_slash_iff {c : Char} : c.toNat = slash.toNat ↔ c = '/' :=
  ⟨fun same => Char.toNat_inj.mp same, fun same => congrArg Char.toNat same⟩

theorem slash_mem_encodeChar {c : Char} : slash ∈ Utf8.encodeChar c ↔ c = '/' :=
  (Utf8.mem_encodeChar_iff (by decide)).trans toNat_eq_slash_iff

theorem slash_mem_ofText {text : String} : slash ∈ ofText text ↔ '/' ∈ text.toList := by
  rw [ofText, Utf8.mem_encode_iff (by decide)]
  simp [toNat_eq_slash_iff]

theorem isAbsolute_ofText (text : String) :
    (ofText text).isAbsolute = decide (text.toList.head? = some '/') := by
  rw [ofText, Utf8.encode, isAbsolute]
  cases text.toList with
  | nil => rfl
  | cons c others =>
      obtain ⟨lead, rest, bytes, _⟩ := Utf8.exists_encodeChar c
      have leads : lead = slash ↔ c = '/' := by
        constructor
        · intro isSlash
          refine slash_mem_encodeChar.mp ?_
          rw [bytes, isSlash]
          exact List.mem_cons_self
        · rintro rfl
          exact (List.cons.inj bytes).1.symm
      rw [Bool.eq_iff_iff]
      simp [bytes, leads]

theorem getLast?_ofText (text : String) :
    (ofText text).getLast? = some slash ↔ text.toList.getLast? = some '/' := by
  rw [ofText, Utf8.encode]
  -- The last byte is the one of the last character.
  cases text.toList using List.reverseRecOn with
  | nil => simp
  | append_singleton others c =>
      rw [List.flatMap_append, List.flatMap_singleton, List.getLast?_concat, Option.some_inj,
        List.getLast?_append_of_ne_nil _ (Utf8.encodeChar_ne_nil c)]
      constructor
      · intro last
        exact slash_mem_encodeChar.mp (List.mem_of_getLast? last)
      · rintro rfl
        rfl

/-- The text of a path below another one, if both are texts. -/
def joinText (base name : String) : String :=
  if base = "" ∨ base.toList.getLast? = some '/' then base ++ name else base ++ "/" ++ name

theorem joinText_ne_empty (base : String) {name : String} (nonempty : name ≠ "") :
    joinText base name ≠ "" := by
  rw [joinText]
  split
  · simp [nonempty]
  · simp

theorem ofText_joinText (base : String) {name : String} (relative : name.toList.head? ≠ some '/') :
    ofText (joinText base name) = (ofText base).join (ofText name) := by
  have isRelative : (ofText name).isAbsolute = false := by
    rw [isAbsolute_ofText, decide_eq_false relative]
  have isEmpty : ofText base = [] ↔ base = "" := ofText_injective.eq_iff' rfl
  rw [join, isRelative, joinText]
  by_cases plain : base = "" ∨ base.toList.getLast? = some '/'
  · have shown : ((ofText base).isEmpty || (ofText base).getLast? == some slash) = true := by
      simpa [getLast?_ofText, isEmpty] using plain
    rw [if_pos plain, shown, ofText_append]
    rfl
  · have shown : ((ofText base).isEmpty || (ofText base).getLast? == some slash) = false := by
      simpa [getLast?_ofText, isEmpty] using plain
    rw [if_neg plain, shown, ofText_append, ofText_append, List.append_assoc]
    rfl

end BrowserPods.Path
