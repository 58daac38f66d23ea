import InvokeWorker.Json.Reader
import InvokeWorker.Json.Writer
import InvokeWorker.Proofs.Numerals
import InvokeWorker.Proofs.Utf8Codec

/-!
# Texts in JSON

A text is written between quotation marks, code point by code point (`JsonStyle.Writes`), and it is
read in the same steps: as it is, or behind a backslash by a letter or by the number of a UTF-16
unit. Only a high surrogate is not read on its own. If it is written by number and a low surrogate
follows, the two are read as one code point (`Text.joined`).

So a text is read as what it is (`Json.readText_quoted`), except that in a style that is kept to
ASCII the pairs of surrogates in it are joined (`Json.readText_quoted_ascii`). Nothing is joined in
a text without such a pair (`Text.joined_eq`).
-/

namespace InvokeWorker

/-! ## Pairs of surrogates -/

namespace CodePoint

/-- The code point of a high surrogate and a low one. -/
def ofPair (high low : Nat) : CodePoint :=
  .ofNat (0x10000 + (high - 0xD800) * 0x400 + (low - 0xDC00))

end CodePoint

namespace Text

/-- The text with each high surrogate and a low one that follows it made one code point. -/
def joined : Text → Text
  | [] => []
  | [c] => [c]
  | c :: d :: t =>
    if c.isHighSurrogate && d.isLowSurrogate then .ofPair c.val d.val :: joined t
    else c :: joined (d :: t)

/-- No high surrogate comes directly before a low one. -/
def Unpaired (t : Text) : Prop :=
  t.IsChain fun c d => ¬ (c.isHighSurrogate = true ∧ d.isLowSurrogate = true)

instance : DecidablePred Unpaired := fun t => inferInstanceAs (Decidable (t.IsChain _))

theorem joined_eq {t : Text} (unpaired : t.Unpaired) : joined t = t := by
  induction t using joined.induct with
  | case1 => rfl
  | case2 => rfl
  | case3 c d t pair =>
    exact absurd (Bool.and_eq_true_iff.1 pair) (List.isChain_cons_cons.1 unpaired).1
  | case4 c d t no_pair ih =>
    rw [joined, if_neg no_pair, ih (List.isChain_cons_cons.1 unpaired).2]

theorem length_joined_le (t : Text) : (joined t).length ≤ t.length := by
  induction t using joined.induct with
  | case1 => exact Nat.le_refl _
  | case2 => exact Nat.le_refl _
  | case3 c d t pair ih =>
    rw [joined, if_pos pair]
    exact Nat.succ_le_succ (Nat.le_succ_of_le ih)
  | case4 c d t no_pair ih =>
    rw [joined, if_neg no_pair]
    exact Nat.succ_le_succ ih

/-- Each pair makes the text shorter. -/
theorem joined_eq_iff {t : Text} : joined t = t ↔ t.Unpaired := by
  refine ⟨fun same => ?_, joined_eq⟩
  induction t using joined.induct with
  | case1 => exact .nil
  | case2 => exact .singleton _
  | case3 c d t pair =>
    have shorter := length_joined_le t
    have lengths := congrArg List.length same
    rw [joined, if_pos pair, List.length_cons, List.length_cons, List.length_cons] at lengths
    omega
  | case4 c d t no_pair ih =>
    rw [joined, if_neg no_pair] at same
    exact .cons_cons (fun pair => no_pair (Bool.and_eq_true_iff.2 pair)) (ih (List.cons.inj same).2)

end Text

namespace JsonStyle

variable {style : JsonStyle} {c : CodePoint}

/-- How a code point may be written. -/
inductive Writes (style : JsonStyle) (c : CodePoint) : Text → Prop
  /-- As it is. -/
  | plain : c ≠ 34 → c ≠ 92 → ¬ c.val < 32 → (style.asciiOnly = true → c.isSurrogate = false) →
    Writes style c [c]
  /-- By a letter. -/
  | letter {e : CodePoint} : e ≠ 117 → Json.simpleEscape? e = some c → Writes style c [92, e]
  /-- By its number. -/
  | unit : c.val < 0x10000 → (c.isSurrogate = true → style.asciiOnly = true) →
    Writes style c (escapedUnit c.val)
  /-- By the numbers of its surrogates. -/
  | pair {high low : Nat} : 0xD800 ≤ high → high ≤ 0xDBFF → 0xDC00 ≤ low → low ≤ 0xDFFF →
    c.isSurrogate = false → CodePoint.ofPair high low = c →
    Writes style c (escapedUnit high ++ escapedUnit low)

theorem writes_escaped (style : JsonStyle) (c : CodePoint) : style.Writes c (style.escaped c) := by
  have bound : c.val < 0x110000 := c.isLt
  rw [escaped]
  split
  · next special =>
    obtain rfl | rfl := special <;> exact .letter (by decide) rfl
  next special =>
  iterate 5
    split
    · next eq =>
      subst eq
      exact .letter (by decide) rfl
  split
  · next control =>
    refine .unit (by omega) fun surrogate => ?_
    have range := CodePoint.isSurrogate_iff.1 surrogate
    omega
  next visible =>
  split
  · next beyond =>
    split
    · next one => exact .unit one fun _ => beyond.1
    · next two =>
      have scalar : c.isSurrogate = false :=
        CodePoint.isSurrogate_eq_false_iff.2 (.inr (by omega))
      exact .pair (by omega) (by omega) (by omega) (by omega) scalar (Utf8.ofNat_val (by omega))
  · next kept =>
    refine .plain (fun eq => special (.inl eq)) (fun eq => special (.inr eq)) visible
      fun ascii => ?_
    have small : c.val ≤ 126 := Nat.not_lt.1 fun large => kept ⟨ascii, large⟩
    exact CodePoint.isSurrogate_eq_false_iff.2 (.inl (by omega))

end JsonStyle

namespace Json

variable {n m : Nat} {u : Text} {c e : CodePoint} {rules : JsonRules} {start read : Text}
  {style : JsonStyle}

/-! ## Escapes -/

theorem unit?_hex (small : n < 0x10000) :
    unit? (.ofDigit (n / 0x1000)) (.ofDigit (n / 0x100 % 0x10)) (.ofDigit (n / 0x10 % 0x10))
      (.ofDigit (n % 0x10)) = some n := by
  have digit := fun {d : Nat} (small : d < 16) => CodePoint.hexDigit?_ofDigit small
  have parts :
      ((n / 0x1000 * 16 + n / 0x100 % 0x10) * 16 + n / 0x10 % 0x10) * 16 + n % 0x10 = n := by
    omega
  simp only [unit?, digit (show n / 0x1000 < 16 by omega),
    digit (show n / 0x100 % 0x10 < 16 by omega), digit (show n / 0x10 % 0x10 < 16 by omega),
    digit (show n % 0x10 < 16 by omega)]
  exact congrArg some parts

theorem unitEscape?_hex (small : n < 0x10000) (more : u ≠ []) :
    unitEscape? (Text.hex 4 n ++ u) = some (n, u) := by
  obtain ⟨e, u, rfl⟩ := List.exists_cons_of_ne_nil more
  rw [Text.hex_eq small]
  simp only [List.cons_append, List.nil_append, unitEscape?, unit?_hex small, Option.map_some]

theorem followingEscape_unit (small : n < 0x10000) (more : u ≠ []) :
    followingEscape (JsonStyle.escapedUnit n ++ u) = some (some n, u) := by
  obtain ⟨e, u, rfl⟩ := List.exists_cons_of_ne_nil more
  rw [JsonStyle.escapedUnit, Text.hex_eq small]
  have backslash : ("\\u" : Text) = [92, 117] := rfl
  simp only [backslash, List.cons_append, List.nil_append, followingEscape, unit?_hex small]

/-! ## Steps -/

theorem readText_plain (no_quote : c ≠ 34) (no_backslash : c ≠ 92) (visible : ¬ c.val < 32)
    (fuel : Nat) :
    readText rules start (fuel + 1) read (c :: u) = readText rules start fuel (c :: read) u := by
  rw [readText.eq_def]
  dsimp only
  rw [if_neg no_quote, if_pos no_backslash, if_neg visible]

theorem readText_letter (no_unit : e ≠ 117) (letter : simpleEscape? e = some c) (fuel : Nat) :
    readText rules start (fuel + 1) read (92 :: e :: u) =
      readText rules start fuel (c :: read) u := by
  rw [readText.eq_def]
  dsimp only
  rw [if_neg (by decide), if_neg (by decide), if_pos no_unit, letter]

/-- A unit stands for itself if it is no surrogate, or may stand alone. -/
theorem addUnit_eq (lone : (CodePoint.ofNat n).isSurrogate = true → rules.loneSurrogates = true) :
    addUnit rules n read = .ok (.ofNat n :: read) := by
  rw [addUnit]
  refine if_neg fun both => ?_
  simp [lone both.1] at both

theorem readText_unit (small : n < 0x10000) (not_high : ¬ (0xD800 ≤ n ∧ n ≤ 0xDBFF))
    (lone : (CodePoint.ofNat n).isSurrogate = true → rules.loneSurrogates = true) (more : u ≠ [])
    (fuel : Nat) :
    readText rules start (fuel + 1) read (JsonStyle.escapedUnit n ++ u) =
      readText rules start fuel (.ofNat n :: read) u := by
  have backslash : JsonStyle.escapedUnit n ++ u = 92 :: 117 :: (Text.hex 4 n ++ u) := rfl
  rw [backslash, readText, if_neg (by decide), if_neg (by decide)]
  dsimp only
  rw [if_neg (by decide), unitEscape?_hex small more]
  dsimp only
  rw [if_neg not_high, addUnit_eq lone]

theorem readText_pair (high : 0xD800 ≤ n ∧ n ≤ 0xDBFF) (low : 0xDC00 ≤ m ∧ m ≤ 0xDFFF)
    (more : u ≠ []) (fuel : Nat) :
    readText rules start (fuel + 1) read
        (JsonStyle.escapedUnit n ++ (JsonStyle.escapedUnit m ++ u)) =
      readText rules start fuel (.ofPair n m :: read) u := by
  have backslash : JsonStyle.escapedUnit n ++ (JsonStyle.escapedUnit m ++ u) =
      92 :: 117 :: (Text.hex 4 n ++ (JsonStyle.escapedUnit m ++ u)) := rfl
  have more' : JsonStyle.escapedUnit m ++ u ≠ [] := nofun
  rw [backslash, readText, if_neg (by decide), if_neg (by decide)]
  dsimp only
  rw [if_neg (by decide), unitEscape?_hex (by omega) more']
  dsimp only
  rw [if_pos high, followingEscape_unit (by omega) more]
  dsimp only
  rw [if_pos low]
  rfl

/-- A high surrogate stands alone unless the number of a low one follows. -/
def NoLowNext (u : Text) : Prop :=
  followingEscape u = none ∨
    ∃ m rest, followingEscape u = some (some m, rest) ∧ ¬ (0xDC00 ≤ m ∧ m ≤ 0xDFFF)

theorem readText_high (high : 0xD800 ≤ n ∧ n ≤ 0xDBFF) (lone : rules.loneSurrogates = true)
    (more : u ≠ []) (no_low : NoLowNext u) (fuel : Nat) :
    readText rules start (fuel + 1) read (JsonStyle.escapedUnit n ++ u) =
      readText rules start fuel (.ofNat n :: read) u := by
  have backslash : JsonStyle.escapedUnit n ++ u = 92 :: 117 :: (Text.hex 4 n ++ u) := rfl
  rw [backslash, readText, if_neg (by decide), if_neg (by decide)]
  dsimp only
  rw [if_neg (by decide), unitEscape?_hex (by omega) more]
  dsimp only
  rw [if_pos high]
  obtain none | ⟨m, rest, next, no_low⟩ := no_low
  · rw [none]
    dsimp only
    rw [addUnit_eq fun _ => lone]
  · rw [next]
    dsimp only
    rw [if_neg no_low, addUnit_eq fun _ => lone]

/-! ## Texts -/

/-- A code point is read in one step, unless it is a high surrogate that is written by number. -/
theorem readText_escaped
    (lone : style.asciiOnly = true → rules.loneSurrogates = true ∧ c.isHighSurrogate = false)
    (more : u ≠ []) (fuel : Nat) :
    readText rules start (fuel + 1) read (style.escaped c ++ u) =
      readText rules start fuel (c :: read) u := by
  have written := style.writes_escaped c
  generalize style.escaped c = t at written ⊢
  cases written with
  | plain no_quote no_backslash visible => exact readText_plain no_quote no_backslash visible fuel
  | letter no_unit letter => exact readText_letter no_unit letter fuel
  | unit small surrogate =>
    have same : CodePoint.ofNat c.val = c := Utf8.ofNat_val rfl
    have not_high : ¬ (0xD800 ≤ c.val ∧ c.val ≤ 0xDBFF) := fun high => by
      have is_surrogate : c.isSurrogate = true := CodePoint.isSurrogate_iff.2 (by omega)
      have no_high := (lone (surrogate is_surrogate)).2
      cases no_high.symm.trans (CodePoint.isHighSurrogate_iff.2 high)
    have alone : (CodePoint.ofNat c.val).isSurrogate = true → rules.loneSurrogates = true := by
      rw [same]
      exact fun is_surrogate => (lone (surrogate is_surrogate)).1
    rw [readText_unit small not_high alone more, same]
  | @pair high low from_high to_high from_low to_low scalar same =>
    rw [List.append_assoc, readText_pair ⟨from_high, to_high⟩ ⟨from_low, to_low⟩ more, same]

theorem quote_ne_nil (t u : Text) : t ++ 34 :: u ≠ [] :=
  List.append_ne_nil_of_right_ne_nil t (List.cons_ne_nil 34 u)

theorem readText_quote (fuel : Nat) (rest : Text) :
    readText rules start (fuel + 1) read (34 :: rest) = .ok (read.reverse, rest) := rfl

/-- A text is read up to its quotation mark, if no high surrogate is written by number. -/
theorem readText_quoted (t : Text)
    (lone : ∀ c ∈ t, style.asciiOnly = true →
      rules.loneSurrogates = true ∧ c.isHighSurrogate = false)
    {fuel : Nat} (enough : t.length ≤ fuel) (rest : Text) :
    readText rules start (fuel + 1) read (t.flatMap style.escaped ++ 34 :: rest) =
      .ok (read.reverse ++ t, rest) := by
  induction t generalizing fuel read with
  | nil => rw [List.flatMap_nil, List.nil_append, readText_quote, List.append_nil]
  | cons c t ih =>
    obtain ⟨fuel, rfl⟩ := Nat.exists_eq_add_of_le' (Nat.le_trans (Nat.le_add_left 1 _) enough)
    rw [List.forall_mem_cons] at lone
    rw [List.flatMap_cons, List.append_assoc, readText_escaped lone.1 (quote_ne_nil _ _),
      ih lone.2 (Nat.le_of_succ_le_succ enough), List.reverse_cons, List.append_assoc,
      List.singleton_append]

/-! ## Texts that are kept to ASCII -/

/-- A surrogate is written by number. -/
theorem escaped_surrogate (ascii : style.asciiOnly = true) (large : 0xD800 ≤ c.val)
    (small : c.val ≤ 0xDFFF) : style.escaped c = JsonStyle.escapedUnit c.val := by
  have other : ∀ d : CodePoint, d.val < 0x80 → c ≠ d := by
    rintro d ascii rfl
    omega
  have special : ¬ (c = 34 ∨ c = 92) := by simp [other]
  rw [JsonStyle.escaped, if_neg special, if_neg (other 8 (by decide)),
    if_neg (other 12 (by decide)), if_neg (other 10 (by decide)), if_neg (other 13 (by decide)),
    if_neg (other 9 (by decide)), if_neg (by omega), if_pos ⟨ascii, by omega⟩, if_pos (by omega)]

theorem followingEscape_none (other : c ≠ 92) : followingEscape (c :: u) = none := by
  rw [followingEscape.eq_def]
  split
  · next same => exact absurd (List.cons.inj same).1 other
  · rfl

/-- The number of a low surrogate comes next only where a low surrogate does. -/
theorem noLowNext_escaped (not_low : c.isLowSurrogate = false) (more : u ≠ []) :
    NoLowNext (style.escaped c ++ u) := by
  have written := style.writes_escaped c
  generalize style.escaped c = t at written ⊢
  cases written with
  | plain no_quote no_backslash => exact .inl (followingEscape_none no_backslash)
  | @letter e no_unit =>
    refine .inl ?_
    rw [List.cons_append, List.cons_append, followingEscape.eq_def]
    split
    · next same => exact absurd (List.cons.inj (List.cons.inj same).2).1 no_unit
    · rfl
  | unit small =>
    refine .inr ⟨_, _, followingEscape_unit small more, fun low => ?_⟩
    cases not_low.symm.trans (CodePoint.isLowSurrogate_iff.2 low)
  | @pair high low from_high to_high =>
    have more' : JsonStyle.escapedUnit low ++ u ≠ [] := nofun
    rw [List.append_assoc]
    exact .inr ⟨_, _, followingEscape_unit (by omega) more', by omega⟩

/-- A code point is read in one step, unless it is the first one of a pair. -/
theorem readText_escaped_ascii (ascii : style.asciiOnly = true)
    (lone : rules.loneSurrogates = true) (more : u ≠ [])
    (no_low : c.isHighSurrogate = true → NoLowNext u) (fuel : Nat) :
    readText rules start (fuel + 1) read (style.escaped c ++ u) =
      readText rules start fuel (c :: read) u := by
  cases high : c.isHighSurrogate with
  | false => exact readText_escaped (fun _ => ⟨lone, high⟩) more fuel
  | true =>
    have range := CodePoint.isHighSurrogate_iff.1 high
    rw [escaped_surrogate ascii range.1 (by omega), readText_high range lone more (no_low high),
      Utf8.ofNat_val rfl]

/-- A text that is kept to ASCII is read with its pairs of surrogates joined. -/
theorem readText_quoted_ascii (ascii : style.asciiOnly = true) (lone : rules.loneSurrogates = true)
    (t : Text) {fuel : Nat} (enough : t.length ≤ fuel) (rest : Text) :
    readText rules start (fuel + 1) read (t.flatMap style.escaped ++ 34 :: rest) =
      .ok (read.reverse ++ t.joined, rest) := by
  -- A pair of surrogates is read in one step, as any other code point is.
  induction t using Text.joined.induct generalizing fuel read with
  | case1 => rw [List.flatMap_nil, List.nil_append, readText_quote, Text.joined, List.append_nil]
  | case2 c =>
    obtain ⟨fuel, rfl⟩ := Nat.exists_eq_add_of_le' (show 1 ≤ fuel from enough)
    have no_low : NoLowNext (34 :: rest) := .inl (followingEscape_none (by decide))
    rw [List.flatMap_cons, List.flatMap_nil, List.append_nil,
      readText_escaped_ascii ascii lone (List.cons_ne_nil _ _) fun _ => no_low, readText_quote,
      List.reverse_cons, Text.joined]
  | case3 c d t pair ih =>
    obtain ⟨fuel, rfl⟩ := Nat.exists_eq_add_of_le' (Nat.le_trans (Nat.le_add_left 1 _) enough)
    have both := Bool.and_eq_true_iff.1 pair
    have high := CodePoint.isHighSurrogate_iff.1 both.1
    have low := CodePoint.isLowSurrogate_iff.1 both.2
    rw [List.flatMap_cons, List.flatMap_cons, escaped_surrogate ascii high.1 (by omega),
      escaped_surrogate ascii (by omega) low.2, List.append_assoc, List.append_assoc,
      readText_pair high low (quote_ne_nil _ _), ih (by simp at enough; omega), Text.joined,
      if_pos pair, List.reverse_cons, List.append_assoc, List.singleton_append]
  | case4 c d t no_pair ih =>
    obtain ⟨fuel, rfl⟩ := Nat.exists_eq_add_of_le' (Nat.le_trans (Nat.le_add_left 1 _) enough)
    have no_low : c.isHighSurrogate = true →
        NoLowNext ((d :: t).flatMap style.escaped ++ 34 :: rest) := fun high => by
      have not_low : d.isLowSurrogate = false := by simpa [high] using no_pair
      rw [List.flatMap_cons, List.append_assoc]
      exact noLowNext_escaped not_low (quote_ne_nil _ _)
    rw [List.flatMap_cons, List.append_assoc,
      readText_escaped_ascii ascii lone (quote_ne_nil _ _) no_low,
      ih (Nat.le_of_succ_le_succ enough), Text.joined, if_neg no_pair, List.reverse_cons,
      List.append_assoc, List.singleton_append]

end Json

end InvokeWorker
