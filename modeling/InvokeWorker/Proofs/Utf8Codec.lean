import InvokeWorker.Text.Utf8
import Mathlib.Data.List.TakeWhile

/-!
# What is encoded can be decoded

The octets of a code point that is no surrogate are one of the well-formed sequences of UTF-8, and
to read it gives the code point back (`Utf8.front_units`). So a text without surrogates is what its
octets say (`Utf8.text?_encodeLax`), and these are the texts that can be encoded
(`Utf8.unencodable?_eq_none_iff`). No octets say anything else (`Utf8.scalar_of_decode?`).
-/

namespace InvokeWorker

namespace CodePoint

variable {c : CodePoint}

/-! ## Ranges of surrogates -/

theorem isHighSurrogate_iff : c.isHighSurrogate = true ↔ 0xD800 ≤ c.val ∧ c.val ≤ 0xDBFF := by
  rw [isHighSurrogate, Bool.and_eq_true, decide_eq_true_eq, decide_eq_true_eq]

theorem isLowSurrogate_iff : c.isLowSurrogate = true ↔ 0xDC00 ≤ c.val ∧ c.val ≤ 0xDFFF := by
  rw [isLowSurrogate, Bool.and_eq_true, decide_eq_true_eq, decide_eq_true_eq]

theorem isSurrogate_iff : c.isSurrogate = true ↔ 0xD800 ≤ c.val ∧ c.val ≤ 0xDFFF := by
  rw [isSurrogate, Bool.and_eq_true, decide_eq_true_eq, decide_eq_true_eq]

theorem isSurrogate_eq_false_iff : c.isSurrogate = false ↔ c.val < 0xD800 ∨ 0xDFFF < c.val := by
  rw [Bool.eq_false_iff, Ne, isSurrogate_iff]
  omega

end CodePoint

namespace Utf8

variable {n : Nat} {c : CodePoint} {t : Text}

/-! ## Octets -/

theorem toNat_octet (small : n < 256) : (UInt8.ofNat n).toNat = n := by
  rw [UInt8.toNat_ofNat', Nat.mod_eq_of_lt small]

theorem octet_inj {m : Nat} (small : n < 256) (small' : m < 256) :
    UInt8.ofNat n = UInt8.ofNat m ↔ n = m := by
  rw [← UInt8.toNat_inj, toNat_octet small, toNat_octet small']

/-- Octets are compared by their values. -/
theorem not_lt_of_le {a : UInt8} (b : UInt8) (le : b.toNat ≤ a.toNat) : ¬ a < b :=
  fun lt => Nat.not_lt.2 le (UInt8.lt_iff_toNat_lt.1 lt)

/-- The octet of six bits continues a sequence. -/
theorem isContinuation_octet (n : Nat) : isContinuation (.ofNat (0x80 + n % 0x40)) = true := by
  have six : n % 0x40 < 0x40 := Nat.mod_lt n (by decide)
  rw [isContinuation, toNat_octet (by omega), Bool.and_eq_true, decide_eq_true_eq,
    decide_eq_true_eq]
  omega

theorem payload_octet (n : Nat) : payload (.ofNat (0x80 + n % 0x40)) = n % 0x40 := by
  have six : n % 0x40 < 0x40 := Nat.mod_lt n (by decide)
  rw [payload, toNat_octet (by omega)]
  omega

/-- Six bits may come second, unless the lead octet excludes them. -/
theorem isSecond_octet {a : Nat} (lead : a < 256) (low : a = 0xE0 → 0x20 ≤ n % 0x40)
    (surrogate : a = 0xED → n % 0x40 < 0x20) (low' : a = 0xF0 → 0x10 ≤ n % 0x40)
    (high : a = 0xF4 → n % 0x40 < 0x10) :
    isSecond (.ofNat a) (.ofNat (0x80 + n % 0x40)) = true := by
  have six : n % 0x40 < 0x40 := Nat.mod_lt n (by decide)
  have is : ∀ m < 256, UInt8.ofNat a = UInt8.ofNat m → a = m := fun m small =>
    (octet_inj lead small).1
  rw [isSecond, isContinuation_octet, Bool.true_and, toNat_octet (by omega)]
  split
  · next eq => exact decide_eq_true (by have := low (is _ (by decide) eq); omega)
  · split
    · next eq => exact decide_eq_true (by have := surrogate (is _ (by decide) eq); omega)
    · split
      · next eq => exact decide_eq_true (by have := low' (is _ (by decide) eq); omega)
      · split
        · next eq => exact decide_eq_true (by have := high (is _ (by decide) eq); omega)
        · rfl

/-! ## Sequences -/

theorem ofNat_val (eq : n = c.val) : CodePoint.ofNat n = c := by
  subst eq
  rw [CodePoint.ofNat, dif_pos c.isLt]

section Front

variable {surrogates : Bool} {o₁ o₂ o₃ o₄ : UInt8} (rest : Bytes)

theorem front_one (short : o₁.toNat < 0x80) :
    front surrogates (o₁ :: rest) = .point (.ofNat o₁.toNat) rest := by
  rw [front.eq_def]
  exact if_pos (UInt8.lt_iff_toNat_lt.2 short)

theorem front_two (long : 0xC2 ≤ o₁.toNat) (short : o₁.toNat < 0xE0)
    (second : isContinuation o₂ = true) :
    front surrogates (o₁ :: o₂ :: rest) =
      .point (.ofNat (o₁.toNat % 0x20 * 0x40 + payload o₂)) rest := by
  rw [front.eq_def]
  dsimp only
  rw [if_neg (not_lt_of_le 0x80 (Nat.le_trans (by decide) long)), if_neg (not_lt_of_le 0xC2 long),
    if_pos (UInt8.lt_iff_toNat_lt.2 short), if_pos second]

theorem front_three (long : 0xE0 ≤ o₁.toNat) (short : o₁.toNat < 0xF0)
    (second : isSecond o₁ o₂ = true) (third : isContinuation o₃ = true) :
    front surrogates (o₁ :: o₂ :: o₃ :: rest) =
      .point (.ofNat (o₁.toNat % 0x10 * 0x1000 + payload o₂ * 0x40 + payload o₃)) rest := by
  rw [front.eq_def]
  dsimp only
  rw [if_neg (not_lt_of_le 0x80 (Nat.le_trans (by decide) long)),
    if_neg (not_lt_of_le 0xC2 (Nat.le_trans (by decide) long)), if_neg (not_lt_of_le 0xE0 long),
    if_pos (UInt8.lt_iff_toNat_lt.2 short), second, third]
  rfl

theorem front_four (long : 0xF0 ≤ o₁.toNat) (short : o₁.toNat < 0xF5)
    (second : isSecond o₁ o₂ = true) (third : isContinuation o₃ = true)
    (fourth : isContinuation o₄ = true) :
    front surrogates (o₁ :: o₂ :: o₃ :: o₄ :: rest) =
      .point (.ofNat (o₁.toNat % 8 * 0x40000 + payload o₂ * 0x1000 + payload o₃ * 0x40
        + payload o₄)) rest := by
  rw [front.eq_def]
  dsimp only
  rw [if_neg (not_lt_of_le 0x80 (Nat.le_trans (by decide) long)),
    if_neg (not_lt_of_le 0xC2 (Nat.le_trans (by decide) long)),
    if_neg (not_lt_of_le 0xE0 (Nat.le_trans (by decide) long)), if_neg (not_lt_of_le 0xF0 long),
    if_pos (UInt8.lt_iff_toNat_lt.2 short), second, third, fourth]
  rfl

end Front

/-- A code point is read from its octets, whatever follows them. -/
theorem front_units {surrogates : Bool} (scalar : c.isSurrogate = false) (rest : Bytes) :
    front surrogates (units c ++ rest) = .point c rest := by
  have bound : c.val < 0x110000 := c.isLt
  have apart := CodePoint.isSurrogate_eq_false_iff.1 scalar
  rw [units]
  split
  · next one =>
    have lead : (UInt8.ofNat c.val).toNat = c.val := toNat_octet (by omega)
    rw [List.singleton_append, front_one rest (by omega), lead, ofNat_val rfl]
  · next more =>
    split
    · next two =>
      have lead : (UInt8.ofNat (0xC0 + c.val / 0x40)).toNat = _ := toNat_octet (by omega)
      rw [List.cons_append, List.singleton_append,
        front_two rest (by omega) (by omega) (isContinuation_octet _), lead, payload_octet,
        ofNat_val (c := c) (by omega)]
    · next long =>
      split
      · next three =>
        have lead : (UInt8.ofNat (0xE0 + c.val / 0x1000)).toNat = _ := toNat_octet (by omega)
        have second := isSecond_octet (a := 0xE0 + c.val / 0x1000) (n := c.val / 0x40) (by omega)
          (by omega) (by omega) (by omega) (by omega)
        rw [List.cons_append, List.cons_append, List.singleton_append,
          front_three rest (by omega) (by omega) second (isContinuation_octet _), lead,
          payload_octet, payload_octet, ofNat_val (c := c) (by omega)]
      · next longer =>
        have lead : (UInt8.ofNat (0xF0 + c.val / 0x40000)).toNat = _ := toNat_octet (by omega)
        have second := isSecond_octet (a := 0xF0 + c.val / 0x40000) (n := c.val / 0x1000)
          (by omega) (by omega) (by omega) (by omega) (by omega)
        rw [List.cons_append, List.cons_append, List.cons_append, List.singleton_append,
          front_four rest (by omega) (by omega) second (isContinuation_octet _)
            (isContinuation_octet _), lead, payload_octet, payload_octet, payload_octet,
          ofNat_val (c := c) (by omega)]

/-- What is left to decode is read behind what was read so far. -/
theorem decodeOnto_encodeLax {surrogates : Bool} (scalar : t.hasSurrogate = false) (total : Nat)
    (read : Text) :
    decodeOnto surrogates total read (encodeLax t) = .ok (read.reverse ++ t) := by
  induction t generalizing read with
  | nil =>
    rw [decodeOnto]
    split <;> simp_all [encodeLax, front]
  | cons c t ih =>
    have parts : c.isSurrogate = false ∧ Text.hasSurrogate t = false := by
      simpa [Text.hasSurrogate] using scalar
    have first : front surrogates (encodeLax (c :: t)) = .point c (encodeLax t) :=
      front_units parts.1 (encodeLax t)
    rw [decodeOnto]
    split
    · next eq => cases eq.symm.trans first
    · next eq =>
      cases eq.symm.trans first
      rw [ih parts.2, List.reverse_cons, List.append_assoc, List.singleton_append]
    · next eq => cases eq.symm.trans first

/-- A text without surrogates is the one that its octets stand for. -/
theorem text?_encodeLax (scalar : t.hasSurrogate = false) : text? (encodeLax t) = some t := by
  rw [text?, decode?, decodeOnto_encodeLax scalar]
  rfl

/-! ## What is decoded -/

theorem isSurrogate_ofNat (apart : n < 0xD800 ∨ 0xDFFF < n) :
    (CodePoint.ofNat n).isSurrogate = false := by
  rw [CodePoint.ofNat]
  split
  · exact CodePoint.isSurrogate_eq_false_iff.2 apart
  · rfl

theorem payload_lt (o : UInt8) : payload o < 0x40 :=
  Nat.mod_lt _ (by decide)

/-- After the lead octet `ED` only the code points before the surrogates have a sequence. -/
theorem payload_lt_of_isSecond {a b : UInt8} (second : isSecond a b = true)
    (lead : a.toNat = 0xED) : payload b < 0x20 := by
  have is_lead : a = 0xED := UInt8.toNat_inj.1 lead
  subst is_lead
  rw [isSecond, isContinuation, if_neg (by decide), if_pos rfl] at second
  simp only [Bool.and_eq_true, decide_eq_true_eq] at second
  rw [payload]
  omega

/-- After the lead octet `F0` only the code points from `U+10000` on have a sequence. -/
theorem le_payload_of_isSecond {a b : UInt8} (second : isSecond a b = true)
    (lead : a.toNat = 0xF0) : 0x10 ≤ payload b := by
  have is_lead : a = 0xF0 := UInt8.toNat_inj.1 lead
  subst is_lead
  rw [isSecond, isContinuation, if_neg (by decide), if_neg (by decide), if_pos rfl] at second
  simp only [Bool.and_eq_true, decide_eq_true_eq] at second
  rw [payload]
  omega

theorem isSurrogate_of_three {a b : UInt8} (long : 0xE0 ≤ a.toNat) (short : a.toNat < 0xF0)
    (second : isSecond a b = true) (o : UInt8) :
    (CodePoint.ofNat (a.toNat % 0x10 * 0x1000 + payload b * 0x40 + payload o)).isSurrogate =
      false := by
  have bound := payload_lt b
  have bound' := payload_lt o
  have before := payload_lt_of_isSecond second
  exact isSurrogate_ofNat (by omega)

theorem isSurrogate_of_four {a b : UInt8} (long : 0xF0 ≤ a.toNat) (short : a.toNat < 0xF5)
    (second : isSecond a b = true) (o o' : UInt8) :
    (CodePoint.ofNat (a.toNat % 8 * 0x40000 + payload b * 0x1000 + payload o * 0x40
      + payload o')).isSurrogate = false := by
  have behind := le_payload_of_isSecond second
  exact isSurrogate_ofNat (by omega)

/-- No sequence stands for a surrogate. -/
theorem isSurrogate_of_front {b rest : Bytes} (read : front false b = .point c rest) :
    c.isSurrogate = false := by
  have le : ∀ {o o' : UInt8}, ¬ o < o' → o'.toNat ≤ o.toNat := fun other =>
    Nat.not_lt.1 fun lt => other (UInt8.lt_iff_toNat_lt.2 lt)
  rw [front.eq_def] at read
  split at read
  · cases read
  next a rest₁ =>
  split at read
  · next one =>
    cases read
    exact isSurrogate_ofNat (.inl (Nat.lt_trans (UInt8.lt_iff_toNat_lt.1 one) (by decide)))
  split at read
  · cases read
  split at read
  · split at read
    · cases read
    · next b rest =>
      split at read
      · cases read
        have bound := payload_lt b
        exact isSurrogate_ofNat (.inl (by omega))
      · cases read
  next long =>
  split at read
  · next short =>
    split at read
    · cases read
    · split at read <;> cases read
    · next b c rest =>
      split at read
      · next well =>
        cases read
        have second : isSecond a b = true := by simp_all
        exact isSurrogate_of_three (le long) (UInt8.lt_iff_toNat_lt.1 short) second c
      · split at read <;> cases read
  next longer =>
  split at read
  · next short =>
    split at read
    · cases read
    · split at read <;> cases read
    · split at read
      · cases read
      · split at read <;> cases read
    · next b c d rest =>
      split at read
      · cases read
      next second =>
      split at read
      · cases read
      split at read
      · cases read
      cases read
      exact isSurrogate_of_four (le longer) (UInt8.lt_iff_toNat_lt.1 short) (by simpa using second)
        c d
  · cases read

theorem scalar_of_decodeOnto {total : Nat} {read : Text} {b : Bytes}
    (decoded : decodeOnto false total read b = .ok t) (scalar : Text.hasSurrogate read = false) :
    t.hasSurrogate = false := by
  fun_induction decodeOnto false total read b with
  | case1 read b done =>
    cases decoded
    simpa [Text.hasSurrogate] using scalar
  | case2 read b c rest first ih =>
    refine ih decoded ?_
    rw [Text.hasSurrogate, List.any_cons, isSurrogate_of_front first]
    exact scalar
  | case3 => cases decoded

/-- Octets that are UTF-8 stand for a text without surrogates. -/
theorem scalar_of_decode? {b : Bytes} (decoded : decode? false b = .ok t) :
    t.hasSurrogate = false :=
  scalar_of_decodeOnto decoded rfl

/-! ## Texts that can be encoded -/

theorem unencodable?_eq_none_iff : unencodable? t = none ↔ t.hasSurrogate = false := by
  have none_left : t.dropWhile (!·.isSurrogate) = [] ↔ t.hasSurrogate = false := by
    simp [List.dropWhile_eq_nil_iff, Text.hasSurrogate]
  rw [← none_left, unencodable?]
  split
  · next empty => exact ⟨fun _ => empty, fun _ => rfl⟩
  · next other => exact ⟨nofun, fun empty => absurd empty other⟩

end Utf8

end InvokeWorker
