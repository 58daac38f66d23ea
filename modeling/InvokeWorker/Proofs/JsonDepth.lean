import InvokeWorker.Json.Reader

/-!
# How deeply JSON may be nested

The reader of JSON takes what it reads from the front of a text, and in an array or an object it is
one level deeper than outside. So it refuses a text for its depth only if more arrays and objects
are opened there than may be nested (`Json.lt_openings_of_read`), whatever else is wrong with the
text. And it does refuse a text that starts with so many arrays (`Json.read_of_openings`).
-/

namespace InvokeWorker

namespace Json

/-- An array or an object is opened. -/
def isOpening (c : CodePoint) : Bool :=
  c = 91 || c = 123

/-- How many arrays and objects are opened in a text, or at least seem to be. -/
def openings (t : Text) : Nat :=
  t.countP isOpening

variable {α β : Type} {t t' rest : Text} {c : CodePoint} {depth : Nat}

theorem openings_le (h : t <:+ t') : openings t ≤ openings t' :=
  h.sublist.countP_le

/-- How it may end to read a part of `t`, so and so deeply: the rest of `t` is left, or more arrays
    and objects are opened in `t` than may be, or something else is wrong. -/
inductive Within (depth : Nat) (t : Text) : Except JsonFault (α × Text) → Prop
  | read {a : α} {rest : Text} : rest <:+ t → Within depth t (.ok (a, rest))
  | deep {object : Bool} : depth < openings t → Within depth t (.error (.tooDeep object))
  | flawed {fault : JsonFault} : (∀ object, fault ≠ .tooDeep object) →
    Within depth t (.error fault)

namespace Within

variable {r : Except JsonFault (α × Text)}

theorem mono (h : Within depth t r) (le : t <:+ t') : Within depth t' r := by
  cases h with
  | read suffix => exact .read (suffix.trans le)
  | deep lt => exact .deep (Nat.lt_of_lt_of_le lt (openings_le le))
  | flawed other => exact .flawed other

/-- An array or an object allows for one level more. -/
theorem opened (opening : isOpening c = true) (h : Within depth t r) :
    Within (depth + 1) (c :: t) r := by
  cases h with
  | read suffix => exact .read (suffix.trans (List.suffix_cons c t))
  | deep lt =>
    refine .deep ?_
    rw [openings, List.countP_cons_of_pos opening]
    exact Nat.succ_lt_succ lt
  | flawed other => exact .flawed other

theorem suffix {a : α} (h : Within depth t (.ok (a, rest))) : rest <:+ t := by
  cases h with
  | read suffix => exact suffix

theorem fails {fault : JsonFault} (h : Within (α := α) depth t (.error fault)) :
    Within (α := β) depth t (.error fault) := by
  cases h with
  | deep lt => exact .deep lt
  | flawed other => exact .flawed other

end Within

/-! ## Parts without levels -/

theorem suffix_skipSpace (t : Text) : skipSpace t <:+ t :=
  List.dropWhile_suffix _

/-- What comes after white space and a sign. -/
theorem suffix_of_skipSpace (h : skipSpace t = c :: rest) : rest <:+ t :=
  (List.suffix_cons c rest).trans (h ▸ suffix_skipSpace t)

theorem suffix_of_unitEscape {n : Nat} (h : unitEscape? t = some (n, rest)) : rest <:+ t := by
  rw [unitEscape?.eq_def] at h
  split at h
  · next a b c d e after =>
    obtain ⟨n, -, same⟩ := Option.map_eq_some_iff.1 h
    cases same
    exact List.suffix_append [a, b, c, d] _
  · cases h

theorem suffix_of_followingEscape {n : Option Nat} (h : followingEscape t = some (n, rest)) :
    rest <:+ t := by
  rw [followingEscape.eq_def] at h
  split at h
  · next a b c d e after =>
    cases h
    exact List.suffix_append [92, 117, a, b, c, d] _
  · cases h

theorem suffix_of_after {start : Text} (h : Text.after? start t = some rest) : rest <:+ t := by
  induction start, t using Text.after?.induct with
  | case1 t =>
    cases h
    exact List.suffix_rfl
  | case2 => cases h
  | case3 start c t ih =>
    rw [Text.after?, if_pos rfl] at h
    exact (ih h).trans (List.suffix_cons c t)
  | case4 c start d t other =>
    rw [Text.after?, if_neg other] at h
    cases h

theorem suffix_of_constant {d : Document} (h : readConstant? t = some (d, rest)) : rest <:+ t := by
  obtain ⟨⟨name, d⟩, -, found⟩ := List.exists_of_findSome?_eq_some h
  obtain ⟨rest, after, same⟩ := Option.map_eq_some_iff.1 found
  cases same
  exact suffix_of_after after

theorem within_of_addUnit {rules : JsonRules} {n : Nat} {read : Text} {fault : JsonFault}
    (h : addUnit rules n read = .error fault) : Within (α := α) depth t (.error fault) := by
  rw [addUnit] at h
  split at h <;> cases h
  exact .flawed nofun

/-- A text is read without an eye to its depth. -/
theorem within_readText (depth : Nat) (rules : JsonRules) (start : Text) (fuel : Nat)
    (read t : Text) : Within depth t (readText rules start fuel read t) := by
  have behind : ∀ {c e : CodePoint} {n : Nat} {after rest : Text},
      unitEscape? rest = some (n, after) → after <:+ c :: e :: rest := fun escape =>
    (suffix_of_unitEscape escape).trans (List.suffix_append [_, _] _)
  -- It ends at a quotation mark or at a fault, or goes on after a character or an escape.
  fun_induction readText rules start fuel read t with
  | case3 => exact .read (List.suffix_cons _ _)
  | case5 _ _ _ _ _ _ _ ih => exact ih.mono (List.suffix_cons _ _)
  | case7 _ _ _ _ _ _ _ _ _ _ ih => exact ih.mono (List.suffix_append [_, _] _)
  | case11 _ _ _ _ _ _ _ _ _ _ escape _ _ _ second _ _ ih =>
    exact ih.mono ((suffix_of_followingEscape second).trans (behind escape))
  | case13 _ _ _ _ _ _ _ _ _ _ escape _ _ _ _ _ _ _ ih
  | case15 _ _ _ _ _ _ _ _ _ _ escape _ _ _ _ ih
  | case17 _ _ _ _ _ _ _ _ _ _ escape _ _ _ ih => exact ih.mono (behind escape)
  | case12 _ _ _ _ _ _ _ _ _ _ _ _ _ _ _ _ _ alone
  | case14 _ _ _ _ _ _ _ _ _ _ _ _ _ _ alone
  | case16 _ _ _ _ _ _ _ _ _ _ _ _ _ alone => exact within_of_addUnit alone
  | _ => exact .flawed nofun

/-! ## Numbers -/

theorem suffix_fraction (t : Text) : (fraction t).2 <:+ t := by
  rw [fraction.eq_def]
  split
  · split
    · exact List.suffix_rfl
    · exact (List.dropWhile_suffix _).trans (List.suffix_cons _ _)
  · exact List.suffix_rfl

theorem suffix_exponent (t : Text) : (exponent t).2 <:+ t := by
  rw [exponent.eq_def]
  split
  · next e rest =>
    split
    · dsimp only
      split
      · exact List.suffix_rfl
      · refine ((List.dropWhile_suffix _).trans ?_).trans (List.suffix_cons e rest)
        split <;> simp
    · exact List.suffix_rfl
  · exact List.suffix_rfl

theorem suffix_of_integerPart {digits : Text} (h : integerPart t = (digits, rest)) :
    rest <:+ t := by
  rw [integerPart.eq_def] at h
  split at h <;> cases h
  · exact List.suffix_cons _ _
  · exact List.dropWhile_suffix _

theorem within_readNumber (depth : Nat) (t : Text) : Within depth t (readNumber t) := by
  rw [readNumber.eq_def]
  dsimp only
  split
  · exact .flawed nofun
  · next digits rest _ part =>
    have left : (exponent (fraction rest).2).2 <:+ t := by
      refine (suffix_exponent _).trans ((suffix_fraction _).trans ?_)
      refine (suffix_of_integerPart part).trans ?_
      split <;> simp
    split
    · split
      · exact .flawed nofun
      · exact .read left
    · exact .read left

/-! ## Values -/

/-- With so much fuel the reader refuses no text for its depth but one with too many openings. -/
structure Bounded (rules : JsonRules) (fuel : Nat) : Prop where
  value : ∀ depth t, Within depth t (readValue rules fuel depth t)
  items : ∀ depth read t, Within depth t (readItems rules fuel depth read t)
  members : ∀ depth read t, Within depth t (readMembers rules fuel depth read t)

namespace Bounded

variable {rules : JsonRules} {fuel : Nat}

/-- In an array or an object the reader is a level deeper, and has left an opening behind. -/
theorem readValue_succ (bounded : Bounded rules fuel) (depth : Nat) (t : Text) :
    Within depth t (readValue rules (fuel + 1) depth t) := by
  have shut : ∀ {c : CodePoint} {rest : Text} {object : Bool}, isOpening c = true →
      Within (α := Document) 0 (c :: rest) (.error (.tooDeep object)) := fun opening =>
    .deep (List.countP_pos_iff.2 ⟨_, List.mem_cons_self, opening⟩)
  rw [readValue.eq_def]
  dsimp only
  split
  · exact .flawed nofun
  · next c rest =>
    split
    · have text := within_readText depth rules (c :: rest) (fuel + 1) [] rest
      cases read : readText rules (c :: rest) (fuel + 1) [] rest with
      | error fault => exact ((read ▸ text).mono (List.suffix_cons c rest)).fails
      | ok p => exact .read ((read ▸ text).suffix.trans (List.suffix_cons c rest))
    split
    · next brace =>
      have opening : isOpening c = true := by simp [isOpening, brace]
      split
      · exact shut opening
      · refine Within.opened opening ?_
        split
        · next closed => exact .read (suffix_of_skipSpace closed)
        · exact (bounded.members _ [] _).mono (suffix_skipSpace rest)
    split
    · next bracket =>
      have opening : isOpening c = true := by simp [isOpening, bracket]
      split
      · exact shut opening
      · refine Within.opened opening ?_
        split
        · next closed => exact .read (suffix_of_skipSpace closed)
        · exact (bounded.items _ [] _).mono (suffix_skipSpace rest)
    split
    · next read constant => exact .read (suffix_of_constant constant)
    · exact within_readNumber depth _

theorem readItems_succ (bounded : Bounded rules fuel) (depth : Nat) (read : List Document)
    (t : Text) : Within depth t (readItems rules (fuel + 1) depth read t) := by
  have first := bounded.value depth t
  rw [readItems.eq_def]
  dsimp only
  split
  · next fault failed => exact (failed ▸ first).fails
  · next d rest eq =>
    have left := (eq ▸ first).suffix
    split
    · next closed => exact .read ((suffix_of_skipSpace closed).trans left)
    · next comma =>
      refine (bounded.items depth _ _).mono ((suffix_skipSpace _).trans ?_)
      exact (suffix_of_skipSpace comma).trans left
    · exact .flawed nofun

theorem readMembers_succ (bounded : Bounded rules fuel) (depth : Nat)
    (read : List (Text × Document)) (t : Text) :
    Within depth t (readMembers rules (fuel + 1) depth read t) := by
  rw [readMembers.eq_def]
  dsimp only
  split
  · next t =>
    have name := within_readText depth rules (34 :: t) (fuel + 1) [] t
    split
    · next fault failed => exact ((failed ▸ name).mono (List.suffix_cons _ t)).fails
    · next name' rest eq =>
      have left := (eq ▸ name).suffix.trans (List.suffix_cons 34 t)
      split
      · next rest colon =>
        replace left := (suffix_skipSpace _).trans ((suffix_of_skipSpace colon).trans left)
        have value := (bounded.value depth (skipSpace rest)).mono left
        split
        · next fault failed => exact (failed ▸ value).fails
        · next d rest eq =>
          replace left := (eq ▸ value).suffix
          split
          · next closed => exact .read ((suffix_of_skipSpace closed).trans left)
          · next comma =>
            refine (bounded.members depth _ _).mono ((suffix_skipSpace _).trans ?_)
            exact (suffix_of_skipSpace comma).trans left
          · exact .flawed nofun
      · exact .flawed nofun
  · exact .flawed nofun

end Bounded

theorem bounded (rules : JsonRules) (fuel : Nat) : Bounded rules fuel := by
  -- Values, items and members are read by turns, each with less fuel than the one before.
  induction fuel with
  | zero => exact ⟨fun _ _ => .flawed nofun, fun _ _ _ => .flawed nofun, fun _ _ _ => .flawed nofun⟩
  | succ fuel ih => exact ⟨ih.readValue_succ, ih.readItems_succ, ih.readMembers_succ⟩

/-- A text is refused for its depth only if more arrays and objects are opened in it than may be
    nested. -/
theorem lt_openings_of_read {rules : JsonRules} {object : Bool}
    (refused : read rules t = .error (.tooDeep object)) : rules.depth < openings t := by
  have bounded := (bounded rules (2 * t.length + 2)).value rules.depth (skipSpace t)
  rw [read] at refused
  split at refused
  · next fault failed =>
    cases refused
    rw [failed] at bounded
    cases bounded with
    | deep lt => exact Nat.lt_of_lt_of_le lt (openings_le (suffix_skipSpace t))
    | flawed other => exact absurd rfl (other object)
  · split at refused <;> cases refused

/-! ## Texts that are too deep -/

theorem skipSpace_cons (space : isSpace c = false) (t : Text) : skipSpace (c :: t) = c :: t :=
  List.dropWhile_cons_of_neg (by simp [space])

/-- A value that starts with more arrays than there are levels left. -/
theorem readValue_of_openings (rules : JsonRules) {depth n fuel : Nat} (deep : depth < n)
    (enough : 2 * n ≤ fuel) (t : Text) :
    readValue rules fuel depth (List.replicate n 91 ++ t) = .error (.tooDeep false) := by
  induction depth generalizing n fuel with
  | zero =>
    obtain ⟨n, rfl⟩ := Nat.exists_eq_add_of_lt deep
    obtain ⟨fuel, rfl⟩ := Nat.exists_eq_add_of_le' (show 1 ≤ fuel by omega)
    rw [Nat.zero_add, List.replicate_succ, List.cons_append, readValue.eq_def]
    rfl
  | succ depth ih =>
    -- The first array is opened; then there is another value, with one level less.
    obtain ⟨n, rfl⟩ := Nat.exists_eq_add_of_le' (show 2 ≤ n by omega)
    obtain ⟨fuel, rfl⟩ := Nat.exists_eq_add_of_le' (show 2 ≤ fuel by omega)
    have inside : readValue rules fuel depth (List.replicate (n + 1) 91 ++ t) =
        .error (.tooDeep false) := ih (by omega) (by omega)
    rw [List.replicate_succ, List.cons_append] at inside ⊢
    have opened : readValue rules (fuel + 2) (depth + 1)
        (91 :: (List.replicate (n + 1) 91 ++ t)) =
          readItems rules (fuel + 1) depth [] (91 :: (List.replicate n 91 ++ t)) := by
      rw [readValue.eq_def]
      rfl
    rw [opened, readItems, inside]

/-- A text that starts with more arrays than may be nested is refused for its depth. -/
theorem read_of_openings (rules : JsonRules) {n : Nat} (deep : rules.depth < n) (t : Text) :
    read rules (List.replicate n 91 ++ t) = .error (.tooDeep false) := by
  have unspaced : skipSpace (List.replicate n 91 ++ t) = List.replicate n 91 ++ t := by
    obtain ⟨n, rfl⟩ := Nat.exists_eq_add_of_lt deep
    exact skipSpace_cons rfl _
  have enough : 2 * n ≤ 2 * (List.replicate n 91 ++ t : Text).length + 2 := by
    simp only [List.length_append, List.length_replicate]
    omega
  rw [read, unspaced, readValue_of_openings rules deep enough]

end Json

end InvokeWorker
