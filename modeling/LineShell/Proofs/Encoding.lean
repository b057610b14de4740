import Mathlib
import LineShell.Stream

/-!
# Text in bytes and back

Encoded text is read as what it was, strictly. A byte below 0x80 stands for its own character
wherever it is: it completes no other character, and what is before it and what is behind it are
read apart. So bytes may be cut at line feeds before they are read as text or afterwards.
-/

namespace LineShell

namespace Utf8

/-! ### Bytes that stand for themselves -/

/-- Bytes are still to come, and none of them stands for itself. -/
def Pending.Owes (pending : Pending) : Prop :=
  pending.ranges ≠ [] ∧ ∀ range ∈ pending.ranges, 0x80 ≤ range.1

theorem owes_of_lead {byte : Nat} {pending : Pending} (h : lead byte = .expects pending) :
    pending.Owes := by
  unfold lead at h
  simp only at h
  repeat' split at h
  all_goals simp only [reduceCtorEq, Lead.expects.injEq] at h
  all_goals
    subst h
    simp [Pending.Owes]

namespace Decoder

/-- The decoder has a good reason to wait if it does. -/
def Sound (d : Decoder) : Prop := ∀ pending ∈ d.pending, pending.Owes

/-- What has been read if nothing more comes, latest first. -/
def settled (d : Decoder) : List (Option Char) :=
  match d.pending with
  | some _ => none :: d.read
  | none => d.read

theorem finish_eq (d : Decoder) : d.finish = d.settled.reverse := by
  unfold finish settled
  cases d.pending <;> rfl

theorem sound_start (d : Decoder) (byte : Nat) : (d.start byte).Sound := by
  unfold start
  split
  · simp [Sound]
  · next pending h => simpa [Sound] using owes_of_lead h
  · simp [Sound]

theorem Sound.feed {d : Decoder} (h : d.Sound) (byte : UInt8) : (d.feed byte).Sound := by
  unfold Decoder.feed
  split
  · next value low high ranges hpending =>
    obtain ⟨-, hranges⟩ := h _ hpending
    split
    · cases ranges with
      | nil => simp [Sound]
      | cons range ranges =>
        rintro pending hnext
        obtain rfl := Option.some.inj hnext
        exact ⟨List.cons_ne_nil _ _, (List.forall_mem_cons.mp hranges).2⟩
    · exact sound_start _ _
  · exact sound_start _ _

theorem sound_foldl (bytes : Bytes) {d : Decoder} (h : d.Sound) :
    (bytes.foldl Decoder.feed d).Sound := by
  induction bytes generalizing d with
  | nil => exact h
  | cons byte bytes ih => exact ih (h.feed byte)

theorem feed_of_lt {d : Decoder} (h : d.Sound) {byte : UInt8} (hbyte : byte.toNat < 0x80) :
    d.feed byte = ⟨some (Char.ofNat byte.toNat) :: d.settled, none⟩ := by
  have hlead : lead byte.toNat = .complete (Char.ofNat byte.toNat) := if_pos hbyte
  obtain ⟨read, pending⟩ := d
  cases pending with
  | none => simp [feed, start, hlead, settled]
  | some pending =>
    obtain ⟨value, ranges⟩ := pending
    obtain ⟨hne, hranges⟩ := h ⟨value, ranges⟩ rfl
    obtain ⟨⟨low, high⟩, others, rfl⟩ := List.exists_cons_of_ne_nil hne
    have hlow : ¬ low ≤ byte.toNat := by
      have := hranges (low, high) List.mem_cons_self
      simp only at this
      omega
    simp [feed, start, hlead, settled, hlow]

/-- What has been read does not matter for what is read next. -/
theorem foldl_feed_append (bytes : Bytes) (read before : List (Option Char))
    (pending : Option Pending) :
    bytes.foldl Decoder.feed ⟨read ++ before, pending⟩ =
      ⟨(bytes.foldl Decoder.feed ⟨read, pending⟩).read ++ before,
        (bytes.foldl Decoder.feed ⟨read, pending⟩).pending⟩ := by
  have hstart (read : List (Option Char)) (byte : Nat) (pending : Option Pending) :
      start ⟨read ++ before, pending⟩ byte =
        ⟨(start ⟨read, pending⟩ byte).read ++ before, (start ⟨read, pending⟩ byte).pending⟩ := by
    unfold start
    split <;> rfl
  have hfeed (read : List (Option Char)) (byte : UInt8) (pending : Option Pending) :
      feed ⟨read ++ before, pending⟩ byte =
        ⟨(feed ⟨read, pending⟩ byte).read ++ before, (feed ⟨read, pending⟩ byte).pending⟩ := by
    unfold feed
    simp only
    split
    · split
      · split <;> rfl
      · exact hstart (none :: read) _ _
    · exact hstart read _ _
  induction bytes generalizing read pending with
  | nil => rfl
  | cons byte bytes ih =>
    simp only [List.foldl_cons]
    rw [hfeed, ih]

end Decoder

theorem read_append_cons {byte : UInt8} (hbyte : byte.toNat < 0x80) (before after : Bytes) :
    read (before ++ byte :: after) =
      read before ++ some (Char.ofNat byte.toNat) :: read after := by
  have hsound : (before.foldl Decoder.feed ⟨[], none⟩).Sound :=
    Decoder.sound_foldl before (by simp [Decoder.Sound])
  have hafter := Decoder.foldl_feed_append after []
    (some (Char.ofNat byte.toNat) :: (before.foldl Decoder.feed ⟨[], none⟩).settled) none
  rw [List.nil_append] at hafter
  simp only [read, List.foldl_append, List.foldl_cons, Decoder.feed_of_lt hsound hbyte, hafter,
    Decoder.finish_eq]
  simp only [Decoder.settled]
  split <;> simp

theorem decode?_append_cons {byte : UInt8} (hbyte : byte.toNat < 0x80) (before after : Bytes) :
    decode? (before ++ byte :: after) = do
      let first ← decode? before
      let others ← decode? after
      return first ++ Char.ofNat byte.toNat :: others := by
  simp only [decode?, read_append_cons hbyte, List.mapM_append, List.mapM_cons]
  simp [Option.bind_assoc]

/-- A text may be cut at such a byte before it is read. -/
theorem decode?_append_cons_eq_some {byte : UInt8} (hbyte : byte.toNat < 0x80)
    {before after : Bytes} {text : List Char}
    (h : decode? (before ++ byte :: after) = some text) :
    ∃ first others, decode? before = some first ∧ decode? after = some others ∧
      text = first ++ Char.ofNat byte.toNat :: others := by
  rw [decode?_append_cons hbyte] at h
  simp only [Option.bind_eq_bind, Option.bind_eq_some_iff, Option.pure_def, Option.some.injEq] at h
  obtain ⟨first, hfirst, others, hothers, rfl⟩ := h
  exact ⟨first, others, hfirst, hothers, rfl⟩

/-- The bytes are those of a text. -/
def IsText (bytes : Bytes) : Prop := (decode? bytes).isSome = true

theorem IsText.of_append_cons {byte : UInt8} (hbyte : byte.toNat < 0x80) {before after : Bytes}
    (h : IsText (before ++ byte :: after)) : IsText before ∧ IsText after := by
  obtain ⟨text, htext⟩ := Option.isSome_iff_exists.mp h
  obtain ⟨first, others, hfirst, hothers, -⟩ := decode?_append_cons_eq_some hbyte htext
  exact ⟨by simp [IsText, hfirst], by simp [IsText, hothers]⟩

theorem IsText.append_cons {byte : UInt8} (hbyte : byte.toNat < 0x80) {before after : Bytes}
    (hbefore : IsText before) (hafter : IsText after) : IsText (before ++ byte :: after) := by
  obtain ⟨first, hfirst⟩ := Option.isSome_iff_exists.mp hbefore
  obtain ⟨others, hothers⟩ := Option.isSome_iff_exists.mp hafter
  simp [IsText, decode?_append_cons hbyte, hfirst, hothers]

/-! ### Encoded characters -/

/-- A byte that stands for itself encodes only its own character, and is all of it. -/
theorem eq_of_mem_utf8EncodeChar {c : Char} {byte : UInt8} (h : byte ∈ String.utf8EncodeChar c)
    (hbyte : byte.toNat < 0x80) : c.toNat = byte.toNat := by
  have hc : c.val.toNat = c.toNat := rfl
  unfold String.utf8EncodeChar at h
  simp only at h
  have hbound := c.val.toNat_lt
  repeat' split at h
  all_goals
    simp only [List.mem_cons, List.not_mem_nil, or_false] at h
    rcases h with rfl | rfl | rfl | rfl
  all_goals
    simp only [UInt8.toNat_ofNat'] at hbyte ⊢
    omega

theorem mem_encode {text : List Char} {byte : UInt8} (h : byte ∈ encode text)
    (hbyte : byte.toNat < 0x80) : Char.ofNat byte.toNat ∈ text := by
  obtain ⟨c, hc, hmem⟩ := List.mem_flatMap.mp h
  rw [← eq_of_mem_utf8EncodeChar hmem hbyte, Char.ofNat_toNat]
  exact hc

theorem encode_append (text more : List Char) :
    encode (text ++ more) = encode text ++ encode more :=
  List.flatMap_append

theorem lead_of_two {n : Nat} (h : 0xC2 ≤ n ∧ n < 0xE0) :
    lead n = .expects ⟨n - 0xC0, [(0x80, 0xBF)]⟩ := by
  obtain ⟨hlow, hhigh⟩ := h
  unfold lead
  rw [if_neg (by omega), if_neg (by omega), if_pos hhigh]

/-- The second of three bytes is in the range that the first one asks for. -/
theorem lead_of_three {n second : Nat} (h : 0xE0 ≤ n ∧ n < 0xF0)
    (hsecond : 0x80 ≤ second ∧ second ≤ 0xBF) (hlow : n = 0xE0 → 0xA0 ≤ second)
    (hhigh : n = 0xED → second ≤ 0x9F) :
    ∃ low high, (low ≤ second ∧ second ≤ high) ∧
      lead n = .expects ⟨n - 0xE0, [(low, high), (0x80, 0xBF)]⟩ := by
  obtain ⟨hfrom, hto⟩ := h
  unfold lead
  rw [if_neg (by omega), if_neg (by omega), if_neg (by omega)]
  by_cases hfirst : n = 0xE0
  · exact ⟨0xA0, 0xBF, ⟨hlow hfirst, hsecond.2⟩, by rw [if_pos hfirst, hfirst]⟩
  by_cases hlast : n = 0xED
  · exact ⟨0x80, 0x9F, ⟨hsecond.1, hhigh hlast⟩, by rw [if_neg hfirst, if_pos hlast, hlast]⟩
  · exact ⟨0x80, 0xBF, hsecond, by rw [if_neg hfirst, if_neg hlast, if_pos hto]⟩

/-- The second of four bytes is in the range that the first one asks for. -/
theorem lead_of_four {n second : Nat} (h : 0xF0 ≤ n ∧ n ≤ 0xF4)
    (hsecond : 0x80 ≤ second ∧ second ≤ 0xBF) (hlow : n = 0xF0 → 0x90 ≤ second)
    (hhigh : n = 0xF4 → second ≤ 0x8F) :
    ∃ low high, (low ≤ second ∧ second ≤ high) ∧
      lead n = .expects ⟨n - 0xF0, [(low, high), (0x80, 0xBF), (0x80, 0xBF)]⟩ := by
  obtain ⟨hfrom, hto⟩ := h
  unfold lead
  rw [if_neg (by omega), if_neg (by omega), if_neg (by omega), if_neg (by omega),
    if_neg (by omega), if_neg (by omega)]
  by_cases hfirst : n = 0xF0
  · exact ⟨0x90, 0xBF, ⟨hlow hfirst, hsecond.2⟩, by rw [if_pos hfirst, hfirst]⟩
  by_cases hlast : n = 0xF4
  · refine ⟨0x80, 0x8F, ⟨hsecond.1, hhigh hlast⟩, ?_⟩
    rw [if_neg hfirst, if_neg (by omega), if_pos hlast, hlast]
  · exact ⟨0x80, 0xBF, hsecond, by rw [if_neg hfirst, if_pos (by omega)]⟩

namespace Decoder

variable {read : List (Option Char)} {byte : UInt8} {value low high n : Nat} {range : Nat × Nat}
  {ranges : List (Nat × Nat)} {pending : Pending}

theorem feed_complete {c : Char} (hn : n < 0x100) (h : lead n = .complete c) :
    feed ⟨read, none⟩ (UInt8.ofNat n) = ⟨some c :: read, none⟩ := by
  have hbyte : (UInt8.ofNat n).toNat = n := by
    rw [UInt8.toNat_ofNat']
    omega
  simp only [feed, start, hbyte, h]

theorem feed_expects (hn : n < 0x100) (h : lead n = .expects pending) :
    feed ⟨read, none⟩ (UInt8.ofNat n) = ⟨read, some pending⟩ := by
  have hbyte : (UInt8.ofNat n).toNat = n := by
    rw [UInt8.toNat_ofNat']
    omega
  simp only [feed, start, hbyte, h]

theorem feed_next (hn : n < 0x100) (h : low ≤ n ∧ n ≤ high) :
    feed ⟨read, some ⟨value, (low, high) :: range :: ranges⟩⟩ (UInt8.ofNat n) =
      ⟨read, some ⟨value * 64 + (n - 0x80), range :: ranges⟩⟩ := by
  have hbyte : (UInt8.ofNat n).toNat = n := by
    rw [UInt8.toNat_ofNat']
    omega
  simp [feed, hbyte, h, -UInt8.toNat_ofNat']

theorem feed_last (hn : n < 0x100) (h : low ≤ n ∧ n ≤ high) :
    feed ⟨read, some ⟨value, [(low, high)]⟩⟩ (UInt8.ofNat n) =
      ⟨some (Char.ofNat (value * 64 + (n - 0x80))) :: read, none⟩ := by
  have hbyte : (UInt8.ofNat n).toNat = n := by
    rw [UInt8.toNat_ofNat']
    omega
  simp [feed, hbyte, h, -UInt8.toNat_ofNat']

end Decoder

theorem foldl_feed_utf8EncodeChar (c : Char) (read : List (Option Char)) :
    (String.utf8EncodeChar c).foldl Decoder.feed ⟨read, none⟩ = ⟨some c :: read, none⟩ := by
  have hvalid : c.val.toNat < 0xD800 ∨ 0xDFFF < c.val.toNat ∧ c.val.toNat < 0x110000 := c.valid
  obtain ⟨v, hv⟩ : ∃ v, v = c.val.toNat := ⟨_, rfl⟩
  have hc {m : Nat} (hm : m = v) : Char.ofNat m = c := by
    rw [hm, hv]
    exact Char.ofNat_toNat c
  rw [← hv] at hvalid
  unfold String.utf8EncodeChar
  simp only [← hv]
  split_ifs with hone htwo hthree
  · have hlead : lead v = .complete c := by
      unfold lead
      rw [if_pos (by omega), hc rfl]
    rw [List.foldl_cons, Decoder.feed_complete (by omega) hlead, List.foldl_nil]
  · have hlead := @lead_of_two (v / 64 % 32 + 192) (by omega)
    rw [List.foldl_cons, Decoder.feed_expects (by omega) hlead, List.foldl_cons,
      Decoder.feed_last (by omega) (by omega), List.foldl_nil, hc (by omega)]
  · obtain ⟨low, high, hsecond, hlead⟩ := @lead_of_three (v / 4096 % 16 + 224) (v / 64 % 64 + 128)
      (by omega) (by omega) (by omega) (by omega)
    rw [List.foldl_cons, Decoder.feed_expects (by omega) hlead, List.foldl_cons,
      Decoder.feed_next (by omega) hsecond, List.foldl_cons,
      Decoder.feed_last (by omega) (by omega), List.foldl_nil, hc (by omega)]
  · obtain ⟨low, high, hsecond, hlead⟩ := @lead_of_four (v / 262144 % 8 + 240)
      (v / 4096 % 64 + 128) (by omega) (by omega) (by omega) (by omega)
    rw [List.foldl_cons, Decoder.feed_expects (by omega) hlead, List.foldl_cons,
      Decoder.feed_next (by omega) hsecond, List.foldl_cons,
      Decoder.feed_next (by omega) (by omega), List.foldl_cons,
      Decoder.feed_last (by omega) (by omega), List.foldl_nil, hc (by omega)]

theorem read_encode_append (text : List Char) (bytes : Bytes) :
    read (encode text ++ bytes) = text.map some ++ read bytes := by
  have hfold (before : List (Option Char)) :
      (encode text).foldl Decoder.feed ⟨before, none⟩ =
        ⟨(text.map some).reverse ++ before, none⟩ := by
    induction text generalizing before with
    | nil => rfl
    | cons c text ih =>
      have hcons : encode (c :: text) = String.utf8EncodeChar c ++ encode text := rfl
      rw [hcons, List.foldl_append, foldl_feed_utf8EncodeChar, ih]
      simp
  have hbytes := Decoder.foldl_feed_append bytes [] (text.map some).reverse none
  rw [List.nil_append] at hbytes
  rw [read, List.foldl_append, hfold, List.append_nil, hbytes, read, Decoder.finish_eq,
    Decoder.finish_eq]
  simp only [Decoder.settled]
  split <;> simp

/-- What has been encoded is read as it was. -/
theorem decode?_encode_append (text : List Char) (bytes : Bytes) :
    decode? (encode text ++ bytes) = (decode? bytes).map (text ++ ·) := by
  have hread : (text.map some).mapM id = some text := by
    induction text with
    | nil => rfl
    | cons c text ih => simp [List.mapM_cons, ih]
  rw [decode?, read_encode_append, List.mapM_append, hread, decode?]
  simp [Option.map_eq_bind]

theorem decode?_encode (text : List Char) : decode? (encode text) = some text := by
  have h := decode?_encode_append text []
  have hnil : decode? [] = some [] := rfl
  rw [List.append_nil, hnil] at h
  simpa using h

theorem isText_encode (text : List Char) : IsText (encode text) := by
  simp [IsText, decode?_encode]

end Utf8

/-! ### Reading line by line -/

namespace Source

variable {bytes : Bytes} {text : List Char}

/-- Every piece of a text between line feeds is text. -/
theorem isText_of_mem_cutAt (htext : Utf8.IsText bytes) :
    ∀ piece ∈ Text.cutAt (· == 0x0A) bytes, Utf8.IsText piece := by
  induction hlength : bytes.length using Nat.strong_induction_on generalizing bytes with
  | _ length ih =>
    subst hlength
    by_cases hfeed : (0x0A : UInt8) ∈ bytes
    · obtain ⟨before, after, rfl⟩ := List.append_of_mem hfeed
      obtain ⟨hbefore, hafter⟩ := htext.of_append_cons (by decide)
      rw [Text.cutAt_append_cons rfl]
      intro piece hpiece
      rcases List.mem_append.mp hpiece with hpiece | hpiece
      · exact ih before.length (by simp) hbefore rfl piece hpiece
      · exact ih after.length (by simp; omega) hafter rfl piece hpiece
    · rw [Text.cutAt_of_not_separates fun byte hbyte =>
        beq_eq_false_iff_ne.mpr (ne_of_mem_of_not_mem hbyte hfeed)]
      simpa using htext

theorem search_eq_none {before : Nat} {pieces : List Bytes}
    (h : ∀ piece ∈ pieces, Utf8.IsText piece) : badLine?.search before pieces = none := by
  induction pieces generalizing before with
  | nil => rfl
  | cons piece pieces ih =>
    obtain ⟨hpiece, hpieces⟩ := List.forall_mem_cons.mp h
    rw [badLine?.search]
    simp only [show (Utf8.decode? piece).isSome = true from hpiece, if_true]
    exact ih hpieces

theorem badLine?_of_isText (h : Utf8.IsText bytes) : badLine? bytes = none :=
  search_eq_none fun piece hpiece =>
    isText_of_mem_cutAt h piece (List.mem_of_mem_dropLast hpiece)

theorem readLines_of_text (h : Utf8.decode? bytes = some text) :
    (ofBytes bytes).readLines = (.ok (Text.lines text), .empty) := by
  have hcontents : (ofBytes bytes).contents = .ok bytes := rfl
  have hunread : (ofBytes bytes).unread = bytes := rfl
  have htext : Utf8.IsText bytes := by simp [Utf8.IsText, h]
  simp only [readLines, hunread, badLine?_of_isText htext, hcontents, bind, Except.bind, h]
  rfl

theorem readLines_of_not_text (h : Utf8.decode? bytes = none) :
    ∃ left, (ofBytes bytes).readLines = (.error .notUtf8, left) := by
  have hcontents : (ofBytes bytes).contents = .ok bytes := rfl
  have hunread : (ofBytes bytes).unread = bytes := rfl
  unfold readLines
  rw [hunread]
  cases badLine? bytes with
  | some length => exact ⟨_, rfl⟩
  | none =>
    simp only [hcontents, bind, Except.bind, h]
    exact ⟨_, rfl⟩

end Source

end LineShell
