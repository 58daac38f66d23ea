import InvokeWorker.Handler.Payload
import InvokeWorker.Proofs.JsonEcho

/-!
# Payloads that were written here

What is written of a document has no control characters in it (`Document.only_render`). By that its
octets are known to be UTF-8 (`Encoding.detect_of_shown`), and if the text is legible, the payload
stands for the document that is read of it (`Payload.decode_encodeLax`).
-/

namespace InvokeWorker

open Text

namespace Utf8

variable {c : CodePoint} {t : Text}

/-- No octet of a code point is a control character that is none itself. -/
theorem le_of_mem_units (large : 32 ≤ c.val) {o : UInt8} (mem : o ∈ units c) : 32 ≤ o.toNat := by
  have bound : c.val < 0x110000 := c.isLt
  rw [units] at mem
  split at mem
  · rw [List.mem_singleton.1 mem, toNat_octet (by omega)]
    exact large
  · split at mem
    · simp only [List.mem_cons, List.not_mem_nil, or_false] at mem
      obtain rfl | rfl := mem <;> rw [toNat_octet (by omega)] <;> omega
    · split at mem
      · simp only [List.mem_cons, List.not_mem_nil, or_false] at mem
        obtain rfl | rfl | rfl := mem <;> rw [toNat_octet (by omega)] <;> omega
      · simp only [List.mem_cons, List.not_mem_nil, or_false] at mem
        obtain rfl | rfl | rfl | rfl := mem <;> rw [toNat_octet (by omega)] <;> omega

theorem le_of_mem_encodeLax (shown : t.Shown) {o : UInt8} (mem : o ∈ encodeLax t) :
    32 ≤ o.toNat := by
  obtain ⟨c, mem_t, mem⟩ := List.mem_flatMap.1 mem
  exact le_of_mem_units (shown c mem_t).1 mem

theorem units_of_isVisible (visible : c.isVisible = true) : units c = [UInt8.ofNat c.val] := by
  have range := isVisible_iff.1 visible
  exact if_pos (by omega)

/-- Visible ASCII is its own encoding. -/
theorem encodeLax_of_visible (visible : t.Visible) : encodeLax t = Bytes.ofAscii t := by
  induction t with
  | nil => rfl
  | cons c t ih =>
    obtain ⟨first, rest⟩ := only_cons.1 visible
    rw [encodeLax, List.flatMap_cons, units_of_isVisible first]
    exact congrArg _ (ih rest)

end Utf8

theorem Bytes.lt_of_mem_ofAscii {t : Text} (visible : t.Visible) :
    ∀ o ∈ Bytes.ofAscii t, o < 0x80 := by
  intro o mem
  obtain ⟨c, mem_t, rfl⟩ := List.mem_map.1 mem
  have range := isVisible_iff.1 (visible c mem_t)
  have bound : (0x80 : UInt8).toNat = 128 := rfl
  rw [UInt8.lt_iff_toNat_lt, Utf8.toNat_octet (by omega), bound]
  omega

namespace Encoding

/-- Without a zero octet there is no telling from UTF-8. -/
theorem ofZeros_of_ne {b : Bytes} (no_zero : ∀ o ∈ b, o ≠ 0) : ofZeros b = .utf8 false := by
  unfold ofZeros
  split
  · next o₀ o₁ =>
    rw [if_neg (no_zero o₀ (by simp)), if_neg (no_zero o₁ (by simp))]
  · next o₀ o₁ _ _ _ =>
    rw [if_neg (no_zero o₀ (by simp)), if_neg (no_zero o₁ (by simp))]
  · rfl

/-- Octets are taken for UTF-8 if the first one is ASCII and there are no control characters. -/
theorem detect_of_large {o : UInt8} {b : Bytes} (first : o.toNat < 0x80)
    (large : ∀ p ∈ o :: b, 32 ≤ p.toNat) : detect (o :: b) = .utf8 false := by
  have no_zero : ∀ p ∈ o :: b, p ≠ 0 := by
    rintro p mem rfl
    have zero : (0 : UInt8).toNat = 0 := rfl
    have range := large 0 mem
    omega
  have range := large o List.mem_cons_self
  -- No mark starts with such an octet.
  have starts : ∀ mark ∈ marks, ∀ p ∈ mark.1.head?, p ≠ o := by
    have outside : ∀ mark ∈ marks, ∀ p ∈ mark.1.head?, p.toNat < 32 ∨ 0x80 ≤ p.toNat := by
      simp [marks]
    rintro mark known p start rfl
    have := outside mark known p start
    omega
  have unmarked : marks.find? (fun mark => mark.1.isPrefixOf (o :: b)) = none := by
    rw [List.find?_eq_none]
    rintro ⟨mark, encoding⟩ known is_prefix
    obtain ⟨rest, eq⟩ := List.isPrefixOf_iff_prefix.1 is_prefix
    cases mark with
    | nil => simp [marks] at known
    | cons p mark => exact starts _ known p rfl (List.cons.inj eq).1
  rw [detect, unmarked]
  exact ofZeros_of_ne no_zero

theorem detect_of_shown {c : CodePoint} {t : Text} (visible : c.isVisible = true)
    (shown : Shown (c :: t)) : detect (Utf8.encodeLax (c :: t)) = .utf8 false := by
  have range := isVisible_iff.1 visible
  have octets : Utf8.encodeLax (c :: t) = UInt8.ofNat c.val :: Utf8.encodeLax t := by
    rw [Utf8.encodeLax, List.flatMap_cons, Utf8.units_of_isVisible visible]
    rfl
  rw [octets]
  refine detect_of_large ?_ fun o mem => Utf8.le_of_mem_encodeLax shown (octets ▸ mem)
  rw [Utf8.toNat_octet (by omega)]
  omega

end Encoding

namespace Payload

variable [Interpreter]

/-- What is written without control characters, and starts with ASCII, is read as JSON. -/
theorem decode_encodeLax {c : CodePoint} {t : Text} {d : Document} (visible : c.isVisible = true)
    (shown : Shown (c :: t)) (read : Json.read rules (c :: t) = .ok d) :
    decode (Utf8.encodeLax (c :: t)) = .ok d := by
  have decoded : (Encoding.utf8 false).decode? (Utf8.encodeLax (c :: t)) = .ok (c :: t) := by
    rw [Encoding.decode?, if_neg Bool.false_ne_true, Utf8.decode?,
      Utf8.decodeOnto_encodeLax (scalar_iff.1 shown.scalar)]
    rfl
  have octets : (Utf8.encodeLax (c :: t)).isEmpty = false := by
    rw [Utf8.encodeLax, List.flatMap_cons, Utf8.units_of_isVisible visible]
    rfl
  rw [decode, octets, if_neg Bool.false_ne_true, Encoding.detect_of_shown visible shown, decoded]
  dsimp only
  rw [read]

/-- What is written of a document is read as its echo, if it starts with ASCII. -/
theorem decode_render {style : JsonStyle} {number : Double → Document} {text : Text → Text}
    (legible : style.Legible rules number text) {d : Document}
    (made : d.MadeOf (fun _ => True) Json.Short nestingLimit) (shown : (d.render style).Shown)
    (first : ∀ c ∈ (d.render style).head?, c.isVisible = true) :
    decode (Utf8.encodeLax (d.render style)) = .ok (d.echo number text) := by
  have read := Json.read_render legible made
  obtain ⟨c, t, eq⟩ := Json.exists_cons_of_read read
  rw [eq] at read shown first ⊢
  exact decode_encodeLax (first c rfl) shown read

end Payload

end InvokeWorker
