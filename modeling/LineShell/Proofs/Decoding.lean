import Mathlib
import LineShell.Proofs.Encoding

/-!
# Only encoded text is read as text

A decoder that meets no fault has read just the bytes that encode what it has read, and the
beginning of a character that is still to be completed. So the bytes of a text are known from the
text: there is no longer form of a character, no half of a pair and no value that is too great.
-/

namespace LineShell

namespace Utf8

/-! ### Characters of one to four bytes -/

theorem toNat_val_ofNat {n : Nat} (h : n < 0xD800 ∨ 0xDFFF < n ∧ n < 0x110000) :
    (Char.ofNat n).val.toNat = n := by
  have hc := Char.toNat_ofNat n
  rwa [if_pos h] at hc

theorem ofNat_eq_byte {n : Nat} (byte : UInt8) (h : n = byte.toNat) : UInt8.ofNat n = byte := by
  rw [h, UInt8.ofNat_toNat]

theorem utf8EncodeChar_of_one {byte : UInt8} (h : byte.toNat < 0x80) :
    String.utf8EncodeChar (Char.ofNat byte.toNat) = [byte] := by
  have hvalue := @toNat_val_ofNat byte.toNat (by omega)
  unfold String.utf8EncodeChar
  simp only [hvalue]
  rw [if_pos (by omega), ofNat_eq_byte byte rfl]

theorem utf8EncodeChar_of_two {first second : UInt8} {value : Nat}
    (hfirst : 0xC2 ≤ first.toNat ∧ first.toNat < 0xE0)
    (hsecond : 0x80 ≤ second.toNat ∧ second.toNat ≤ 0xBF)
    (h : value = (first.toNat - 0xC0) * 64 + (second.toNat - 0x80)) :
    String.utf8EncodeChar (Char.ofNat value) = [first, second] := by
  have hvalue := @toNat_val_ofNat value (by omega)
  unfold String.utf8EncodeChar
  simp only [hvalue]
  rw [if_neg (by omega), if_pos (by omega), ofNat_eq_byte first (by omega),
    ofNat_eq_byte second (by omega)]

theorem utf8EncodeChar_of_three {first second third : UInt8} {value : Nat}
    (hfirst : 0xE0 ≤ first.toNat ∧ first.toNat < 0xF0)
    (hsecond : 0x80 ≤ second.toNat ∧ second.toNat ≤ 0xBF)
    (hthird : 0x80 ≤ third.toNat ∧ third.toNat ≤ 0xBF)
    (hlow : first.toNat = 0xE0 → 0xA0 ≤ second.toNat)
    (hhigh : first.toNat = 0xED → second.toNat ≤ 0x9F)
    (h : value = ((first.toNat - 0xE0) * 64 + (second.toNat - 0x80)) * 64 + (third.toNat - 0x80)) :
    String.utf8EncodeChar (Char.ofNat value) = [first, second, third] := by
  have hvalue := @toNat_val_ofNat value (by omega)
  unfold String.utf8EncodeChar
  simp only [hvalue]
  rw [if_neg (by omega), if_neg (by omega), if_pos (by omega),
    ofNat_eq_byte first (by omega), ofNat_eq_byte second (by omega),
    ofNat_eq_byte third (by omega)]

theorem utf8EncodeChar_of_four {first second third fourth : UInt8} {value : Nat}
    (hfirst : 0xF0 ≤ first.toNat ∧ first.toNat ≤ 0xF4)
    (hsecond : 0x80 ≤ second.toNat ∧ second.toNat ≤ 0xBF)
    (hthird : 0x80 ≤ third.toNat ∧ third.toNat ≤ 0xBF)
    (hfourth : 0x80 ≤ fourth.toNat ∧ fourth.toNat ≤ 0xBF)
    (hlow : first.toNat = 0xF0 → 0x90 ≤ second.toNat)
    (hhigh : first.toNat = 0xF4 → second.toNat ≤ 0x8F)
    (h : value = (((first.toNat - 0xF0) * 64 + (second.toNat - 0x80)) * 64 +
      (third.toNat - 0x80)) * 64 + (fourth.toNat - 0x80)) :
    String.utf8EncodeChar (Char.ofNat value) = [first, second, third, fourth] := by
  have hvalue := @toNat_val_ofNat value (by omega)
  unfold String.utf8EncodeChar
  simp only [hvalue]
  rw [if_neg (by omega), if_neg (by omega), if_neg (by omega),
    ofNat_eq_byte first (by omega), ofNat_eq_byte second (by omega),
    ofNat_eq_byte third (by omega), ofNat_eq_byte fourth (by omega)]

/-! ### First bytes -/

theorem lead_eq_complete {n : Nat} {c : Char} (h : lead n = .complete c) :
    n < 0x80 ∧ c = Char.ofNat n := by
  unfold lead at h
  simp only at h
  repeat' split at h
  all_goals simp only [reduceCtorEq, Lead.complete.injEq] at h
  next hn => exact ⟨hn, h.symm⟩

/-- What is expected behind a byte that begins a character of two, three or four bytes. -/
theorem lead_eq_expects {n : Nat} {pending : Pending} (h : lead n = .expects pending) :
    (0xC2 ≤ n ∧ n < 0xE0) ∧ pending = ⟨n - 0xC0, [(0x80, 0xBF)]⟩ ∨
    ∃ low high, 0x80 ≤ low ∧ high ≤ 0xBF ∧
      ((0xE0 ≤ n ∧ n < 0xF0) ∧ (n = 0xE0 → 0xA0 ≤ low) ∧ (n = 0xED → high ≤ 0x9F) ∧
        pending = ⟨n - 0xE0, [(low, high), (0x80, 0xBF)]⟩ ∨
      (0xF0 ≤ n ∧ n ≤ 0xF4) ∧ (n = 0xF0 → 0x90 ≤ low) ∧ (n = 0xF4 → high ≤ 0x8F) ∧
        pending = ⟨n - 0xF0, [(low, high), (0x80, 0xBF), (0x80, 0xBF)]⟩) := by
  unfold lead at h
  simp only at h
  repeat' split at h
  all_goals simp only [reduceCtorEq, Lead.expects.injEq] at h
  all_goals subst h
  · exact .inl ⟨by omega, rfl⟩
  · next hn =>
    refine .inr ⟨0xA0, 0xBF, by omega, by omega, .inl ⟨by omega, by omega, by omega, ?_⟩⟩
    rw [hn]
  · next hn =>
    refine .inr ⟨0x80, 0x9F, by omega, by omega, .inl ⟨by omega, by omega, by omega, ?_⟩⟩
    rw [hn]
  · exact .inr ⟨0x80, 0xBF, by omega, by omega, .inl ⟨by omega, by omega, by omega, rfl⟩⟩
  · next hn =>
    refine .inr ⟨0x90, 0xBF, by omega, by omega, .inr ⟨by omega, by omega, by omega, ?_⟩⟩
    rw [hn]
  · exact .inr ⟨0x80, 0xBF, by omega, by omega, .inr ⟨by omega, by omega, by omega, rfl⟩⟩
  · next hn =>
    refine .inr ⟨0x80, 0x8F, by omega, by omega, .inr ⟨by omega, by omega, by omega, ?_⟩⟩
    rw [hn]

/-! ### What a decoder has read -/

/-- The bytes behind the first one complete a character just if each is in its range. -/
abbrev Continues : List (Nat × Nat) → Bytes → Prop :=
  List.Forall₂ fun range byte => range.1 ≤ byte.toNat ∧ byte.toNat ≤ range.2

namespace Pending

/-- These bytes have been read of the character: whatever completes it is the rest of its
encoding. -/
def Begun (pending : Pending) (bytes : Bytes) : Prop :=
  ∀ others, Continues pending.ranges others →
    String.utf8EncodeChar (Char.ofNat
      (others.foldl (fun value byte => value * 64 + (byte.toNat - 0x80)) pending.value)) =
    bytes ++ others

theorem begun_of_lead {byte : UInt8} {pending : Pending}
    (h : lead byte.toNat = .expects pending) : pending.Begun [byte] := by
  intro others hothers
  rcases lead_eq_expects h with ⟨hfirst, rfl⟩ | ⟨low, high, hlow, hhigh, hmore⟩
  · obtain - | ⟨hsecond, ⟨⟩⟩ := hothers
    exact utf8EncodeChar_of_two hfirst hsecond rfl
  · rcases hmore with ⟨hfirst, hleast, hgreatest, rfl⟩ | ⟨hfirst, hleast, hgreatest, rfl⟩
    · obtain - | ⟨⟨hfrom, hto⟩, - | ⟨hthird, ⟨⟩⟩⟩ := hothers
      simp only at hfrom hto
      exact utf8EncodeChar_of_three hfirst (by omega) hthird (by omega) (by omega) rfl
    · obtain - | ⟨⟨hfrom, hto⟩, - | ⟨hthird, - | ⟨hfourth, ⟨⟩⟩⟩⟩ := hothers
      simp only at hfrom hto
      exact utf8EncodeChar_of_four hfirst (by omega) hthird hfourth (by omega) (by omega) rfl

theorem Begun.next {value low high : Nat} {ranges : List (Nat × Nat)} {bytes : Bytes}
    {byte : UInt8} (h : Begun ⟨value, (low, high) :: ranges⟩ bytes)
    (hbyte : low ≤ byte.toNat ∧ byte.toNat ≤ high) :
    Begun ⟨value * 64 + (byte.toNat - 0x80), ranges⟩ (bytes ++ [byte]) := by
  intro others hothers
  simpa using h (byte :: others) (.cons hbyte hothers)

end Pending

namespace Decoder

/-- Unless there was a fault, the bytes are the encoding of what has been read, and the beginning of
the character that is pending. -/
def Spells (d : Decoder) (bytes : Bytes) : Prop :=
  none ∈ d.read ∨ ∃ text begun, d.read = (text.map some).reverse ∧ bytes = encode text ++ begun ∧
    match d.pending with
    | some pending => pending.Begun begun
    | none => begun = []

theorem Spells.start {d : Decoder} {bytes : Bytes} (h : d.Spells bytes) (hnone : d.pending = none)
    (byte : UInt8) : (d.start byte.toNat).Spells (bytes ++ [byte]) := by
  unfold Decoder.start
  rcases h with hfault | ⟨text, begun, hread, rfl, hbegun⟩
  · refine .inl ?_
    split <;> simp [hfault]
  · obtain rfl : begun = [] := by simpa [hnone] using hbegun
    split
    · next c hlead =>
      obtain ⟨hbyte, rfl⟩ := lead_eq_complete hlead
      refine .inr ⟨text ++ [Char.ofNat byte.toNat], [], by simp [hread], ?_, rfl⟩
      simp [encode, utf8EncodeChar_of_one hbyte]
    · next pending hlead =>
      exact .inr ⟨text, [byte], hread, by simp, Pending.begun_of_lead hlead⟩
    · exact .inl List.mem_cons_self

theorem Spells.feed {d : Decoder} {bytes : Bytes} (h : d.Spells bytes) (hsound : d.Sound)
    (byte : UInt8) : (d.feed byte).Spells (bytes ++ [byte]) := by
  obtain ⟨read, pending⟩ := d
  match pending with
  | none => exact h.start rfl byte
  | some ⟨value, []⟩ => exact absurd rfl (hsound _ rfl).1
  | some ⟨value, (low, high) :: ranges⟩ =>
    unfold Decoder.feed
    simp only
    split
    · next hbyte =>
      have hwithin : low ≤ byte.toNat ∧ byte.toNat ≤ high := by simpa using hbyte
      rcases h with hfault | ⟨text, begun, hread, rfl, hbegun⟩
      · refine .inl ?_
        split <;> simp [hfault]
      have hnext := Pending.Begun.next hbegun hwithin
      cases ranges with
      | nil =>
        have hcomplete := hnext [] .nil
        simp only [List.foldl_nil, List.append_nil] at hcomplete
        exact .inr ⟨text ++ [Char.ofNat (value * 64 + (byte.toNat - 0x80))], [],
          by simpa using hread, by simp [encode, hcomplete], rfl⟩
      | cons range ranges =>
        exact .inr ⟨text, begun ++ [byte], hread, List.append_assoc _ _ _, hnext⟩
    · exact Spells.start (.inl List.mem_cons_self) rfl byte

theorem spells_foldl (bytes before : Bytes) {d : Decoder} (h : d.Spells before) (hsound : d.Sound) :
    (bytes.foldl Decoder.feed d).Spells (before ++ bytes) := by
  induction bytes generalizing d before with
  | nil => simpa using h
  | cons byte bytes ih => simpa using ih (before ++ [byte]) (h.feed hsound byte) (hsound.feed byte)

end Decoder

theorem eq_map_some_of_mapM_id {read : List (Option Char)} {text : List Char}
    (h : read.mapM id = some text) : read = text.map some := by
  induction read generalizing text with
  | nil =>
    obtain rfl : [] = text := by simpa using h
    rfl
  | cons c read ih =>
    simp only [List.mapM_cons, Option.bind_eq_bind, Option.bind_eq_some_iff, Option.pure_def,
      Option.some.injEq] at h
    obtain ⟨c, rfl, text, hread, rfl⟩ := h
    rw [ih hread, List.map_cons]

/-- Only what encodes a text is read as that text. -/
theorem decode?_eq_some_iff {bytes : Bytes} {text : List Char} :
    decode? bytes = some text ↔ bytes = encode text := by
  refine ⟨fun h => ?_, fun h => h ▸ decode?_encode text⟩
  obtain ⟨last, hlast⟩ : ∃ last, last = bytes.foldl Decoder.feed ⟨[], none⟩ := ⟨_, rfl⟩
  have hsettled : last.settled = (text.map some).reverse := by
    rw [← eq_map_some_of_mapM_id h, read, Decoder.finish_eq, List.reverse_reverse, hlast]
  have hgood : none ∉ last.settled := by simp [hsettled]
  have hspells : last.Spells bytes := by
    have hstart : Decoder.Spells ⟨[], none⟩ [] := .inr ⟨[], [], rfl, rfl, rfl⟩
    have hsound : Decoder.Sound ⟨[], none⟩ := by simp [Decoder.Sound]
    simpa [hlast] using Decoder.spells_foldl bytes [] hstart hsound
  obtain ⟨read, pending⟩ := last
  cases pending with
  | some pending => exact absurd List.mem_cons_self hgood
  | none =>
    rcases hspells with hfault | ⟨other, begun, hother, rfl, rfl⟩
    · exact absurd hfault hgood
    · have hsame : other.map some = text.map some :=
        List.reverse_injective (hother.symm.trans hsettled)
      rw [List.append_nil, List.map_injective_iff.mpr (Option.some_injective _) hsame]

end Utf8
end LineShell
