import Mathlib
import LineShell.Text.Utf8

/-!
# The order of encoded texts

Texts are compared character by character, and so are the bytes that encode them: the first
character in which two texts differ decides, and already its bytes differ in the same direction. So
sorting texts sorts them by their bytes.
-/

namespace LineShell

namespace Utf8

/-- Of two values the digits decide which is the greater, the first ones first. -/
theorem digits_lt {v w : Nat} (hlt : v < w) (hw : w < 0x110000) :
    v / 262144 % 8 < w / 262144 % 8 ∨ v / 262144 % 8 = w / 262144 % 8 ∧
      (v / 4096 % 64 < w / 4096 % 64 ∨ v / 4096 % 64 = w / 4096 % 64 ∧
        (v / 64 % 64 < w / 64 % 64 ∨ v / 64 % 64 = w / 64 % 64 ∧ v % 64 < w % 64)) := by
  rcases Nat.lt_or_ge (v / 262144) (w / 262144) with hfirst | hfirst
  · omega
  rcases Nat.lt_or_ge (v / 4096) (w / 4096) with hsecond | hsecond
  · omega
  rcases Nat.lt_or_ge (v / 64) (w / 64) with hthird | hthird
  · omega
  · omega

/-- The bytes of a smaller character come first, whatever follows either character. -/
theorem utf8EncodeChar_append_lt {c d : Char} (h : c < d) (rest more : Bytes) :
    String.utf8EncodeChar c ++ rest < String.utf8EncodeChar d ++ more := by
  have hd : d.val.toNat < 0x110000 := by
    have hvalid : d.val.toNat < 0xD800 ∨ 0xDFFF < d.val.toNat ∧ d.val.toNat < 0x110000 := d.valid
    omega
  have hlt : c.val.toNat < d.val.toNat := h
  have hdigits := digits_lt hlt hd
  have hbyte {n m : Nat} (hn : n < 256) (hm : m < 256) :
      (UInt8.ofNat n < UInt8.ofNat m ↔ n < m) ∧ (UInt8.ofNat n = UInt8.ofNat m ↔ n = m) := by
    rw [UInt8.lt_iff_toNat_lt, ← UInt8.toNat_inj, UInt8.toNat_ofNat', UInt8.toNat_ofNat',
      Nat.mod_eq_of_lt hn, Nat.mod_eq_of_lt hm]
    exact ⟨Iff.rfl, Iff.rfl⟩
  unfold String.utf8EncodeChar
  simp only
  -- Characters with fewer bytes have a smaller first byte; with as many, their digits decide.
  split_ifs
  all_goals
    simp (disch := omega) only [List.cons_append, List.nil_append, List.cons_lt_cons_iff, hbyte]
    omega

theorem encode_lt_encode {text other : List Char} (h : text < other) :
    encode text < encode other := by
  induction text generalizing other with
  | nil =>
    cases other with
    | nil => exact absurd h (List.lt_irrefl [])
    | cons d other =>
      have hne : encode (d :: other) ≠ [] := by simp [encode]
      obtain ⟨byte, bytes, hbytes⟩ := List.exists_cons_of_ne_nil hne
      rw [hbytes]
      exact List.nil_lt_cons byte bytes
  | cons c text ih =>
    cases other with
    | nil => exact absurd h (List.not_lt_nil _)
    | cons d other =>
      rcases List.cons_lt_cons_iff.mp h with hc | ⟨rfl, htext⟩
      · exact utf8EncodeChar_append_lt hc _ _
      · exact List.append_left_lt (ih htext)

end Utf8

/-- The bytes of the first text come before those of the second one. -/
def BytesBefore (first second : String) : Prop :=
  Utf8.encode first.toList < Utf8.encode second.toList

theorem bytesBefore_iff {first second : String} : BytesBefore first second ↔ first < second := by
  have hbefore {first second : String} (h : first < second) : BytesBefore first second :=
    Utf8.encode_lt_encode (String.lt_iff_toList_lt.mp h)
  refine ⟨fun h => ?_, hbefore⟩
  rcases lt_trichotomy first second with hlt | rfl | hgt
  · exact hlt
  · exact absurd h (List.lt_irrefl _)
  · exact absurd h (List.lt_asymm (hbefore hgt))

end LineShell
