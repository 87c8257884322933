import BrowserPods.Url.Host
import Mathlib

/-!
# Texts of hosts

A host on its own is written as in a URL, an address of version 6 without the brackets.  Only an
address that stands for one of version 4 has two texts: on its own it ends in that address, and in a
URL it is hexadecimal throughout (`Host.write_eq_iff`).
-/

namespace BrowserPods

namespace Ipv6

/-- The address of version 6 that stands for one of version 4. -/
def ofIpv4 (address : Ipv4) : Ipv6 where
  pieces :=
    [0, 0, 0, 0, 0, 0xffff, address.bits.toNat / 65536, address.bits.toNat % 65536]
  complete := rfl
  small := by
    have bounded : address.bits.toNat < 65536 * 65536 := address.bits.toNat_lt
    simp only [List.forall_mem_cons, List.not_mem_nil, false_implies, implies_true, and_true]
    omega

variable {address : Ipv6} {mapped : Ipv4}

@[simp]
theorem mapped?_ofIpv4 (mapped : Ipv4) : (ofIpv4 mapped).mapped? = some mapped := by
  rw [mapped?, ofIpv4]
  have whole : mapped.bits.toNat / 65536 * 65536 + mapped.bits.toNat % 65536 = mapped.bits.toNat :=
    Nat.div_add_mod' _ _
  simp [whole]

theorem mapped?_eq_some_iff : address.mapped? = some mapped ↔ address = ofIpv4 mapped := by
  constructor
  · intro found
    obtain ⟨pieces, complete, small⟩ := address
    rw [mapped?] at found
    split at found
    · rename_i high low shape
      change pieces = _ at shape
      subst shape
      cases found
      have highSmall : high < 65536 := small high (by simp)
      have lowSmall : low < 65536 := small low (by simp)
      have number : (high * 65536 + low).toUInt32.toNat = high * 65536 + low := by
        rw [Nat.toUInt32_eq, UInt32.toNat_ofNat']
        exact Nat.mod_eq_of_lt (by omega)
      have first : (high * 65536 + low) / 65536 = high := by omega
      have second : (high * 65536 + low) % 65536 = low := by omega
      simp only [ofIpv4, number, first, second]
    · cases found
  · rintro rfl
    exact mapped?_ofIpv4 mapped

theorem zeros_zero_cons (pieces : List ℕ) : zeros (0 :: pieces) = zeros pieces + 1 := rfl

theorem zeros_cons_of_ne {piece : ℕ} (nonzero : piece ≠ 0) (pieces : List ℕ) :
    zeros (piece :: pieces) = 0 := by
  rw [zeros, List.takeWhile_cons_of_neg (by simpa using nonzero), List.length_nil]

theorem zeros_le_length (pieces : List ℕ) : zeros pieces ≤ pieces.length :=
  (List.takeWhile_sublist _).length_le

/-- The five zeros in front are more than can stand behind them. -/
theorem longestRun_mapped (high low : ℕ) :
    longestRun [0, 0, 0, 0, 0, 0xffff, high, low] = (0, 5) := by
  have last : ¬ 5 < zeros [low] :=
    Nat.not_lt.mpr ((zeros_le_length [low]).trans (by simp))
  have lastTwo : ¬ 5 < zeros [high, low] :=
    Nat.not_lt.mpr ((zeros_le_length [high, low]).trans (by simp))
  simp [longestRun, List.range_succ, zeros_zero_cons, zeros_cons_of_ne, last, lastTwo]

theorem write_ofIpv4 (mapped : Ipv4) : (ofIpv4 mapped).write = "::ffff:" ++ mapped.write := by
  rw [write, mapped?_ofIpv4]

theorem toList_writePieces_ofIpv4 (mapped : Ipv4) :
    (ofIpv4 mapped).writePieces.toList =
      "::ffff:".toList ++ Nat.toDigits 16 (mapped.bits.toNat / 65536) ++
        ':' :: Nat.toDigits 16 (mapped.bits.toNat % 65536) := by
  have ffff : Nat.toDigits 16 0xffff = ['f', 'f', 'f', 'f'] := by decide
  rw [writePieces, ofIpv4, longestRun_mapped]
  simp [joined, ffff, List.intercalate]

theorem colon_not_mem_write (mapped : Ipv4) : ':' ∉ mapped.write.toList := by
  have notDigit {n : ℕ} : ':' ∉ Nat.toDigits 10 n := by
    intro member
    have isDigit := Nat.isDigit_of_mem_toDigits (by decide) (by decide) member
    revert isDigit
    decide
  rw [Ipv4.write, String.toList_ofList, Ipv4.dotted]
  simp [notDigit]

theorem write_eq_writePieces_iff :
    address.write = address.writePieces ↔ ∀ mapped, address ≠ ofIpv4 mapped := by
  constructor
  · rintro same mapped rfl
    have texts := congrArg String.toList same
    rw [write_ofIpv4, toList_writePieces_ofIpv4, String.toList_append, List.append_assoc,
      List.append_cancel_left_eq] at texts
    apply colon_not_mem_write mapped
    rw [texts]
    simp
  · intro unmapped
    cases found : address.mapped? with
    | none => rw [write, found]
    | some mapped => exact absurd (mapped?_eq_some_iff.mp found) (unmapped mapped)

end Ipv6

namespace Host

/-- Without its brackets a host of a URL is the host on its own, unless it stands for an address of
version 4. -/
theorem write_eq_iff (host : Host) :
    host.write = (if host matches .ipv6 _ then "[" ++ host.name ++ "]" else host.name) ↔
      ∀ mapped, host ≠ .ipv6 (.ofIpv4 mapped) := by
  cases host with
  | domain name => simp [write]
  | ipv4 address => simp [write]
  | ipv6 address =>
      change "[" ++ address.writePieces ++ "]" = "[" ++ address.write ++ "]" ↔ _
      simp [← Ipv6.write_eq_writePieces_iff, eq_comm]

theorem name_of_mapped (mapped : Ipv4) :
    (Host.ipv6 (.ofIpv4 mapped)).name = "::ffff:" ++ mapped.write := Ipv6.write_ofIpv4 mapped

end Host

end BrowserPods
