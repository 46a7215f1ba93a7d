import DhcpLeasing.HwAddr
import DhcpLeasing.Proofs.Text.Digits
import DhcpLeasing.Proofs.Text.Lowercase
import DhcpLeasing.Proofs.Text.Parts
import DhcpLeasing.Proofs.Text.Trimming

/-!
# Hardware addresses survive being written

A hardware address is read from its text as it was, if it has any bytes: `HwAddr.ofText_toText`.
-/

namespace DhcpLeasing.HwAddr

open Text

variable {a : HwAddr} {b : UInt8} {c : Char}

lemma isHexDigit_of_mem_renderByte (h : c ∈ renderByte b) : IsHexDigit c := by
  have hb := b.toNat_lt
  simp only [renderByte, List.mem_cons, List.not_mem_nil, or_false] at h
  rcases h with rfl | rfl
  · exact ⟨_, by omega, rfl⟩
  · exact ⟨_, by omega, rfl⟩

lemma readByte_renderByte (b : UInt8) : readByte (renderByte b) = some b := by
  have hb := b.toNat_lt
  have hhigh : Nat.digitChar (b.toNat / 16) ≠ '+' := by
    have hall : ∀ d < 16, Nat.digitChar d ≠ '+' := by decide
    exact hall _ (by omega)
  have hlow : hexDigit? (Nat.digitChar (b.toNat % 16)) = some (b.toNat % 16) :=
    hexDigit?_digitChar (by omega)
  rw [renderByte, readByte, hlow]
  dsimp only [Option.bind_eq_bind, Option.bind_some]
  rw [if_neg hhigh, hexDigit?_digitChar (by omega)]
  show some (UInt8.ofNat (16 * (b.toNat / 16) + b.toNat % 16)) = some b
  rw [Nat.div_add_mod, UInt8.ofNat_toNat]

/-- The characters of the text of an address. -/
lemma mem_render (h : c ∈ a.render) : c = ':' ∨ IsHexDigit c := by
  obtain rfl | ⟨part, hpart, hc⟩ := mem_intercalate h
  · exact .inl rfl
  · obtain ⟨b, -, rfl⟩ := List.mem_map.1 hpart
    exact .inr (isHexDigit_of_mem_renderByte hc)

/-- The text of an address is in the form in which bytes are looked for. -/
lemma normalize_toText (a : HwAddr) : normalize a.toText = a.render := by
  have hchar : ∀ c ∈ a.toText.toList, c.toNat < 0x80 ∧ c.isUpper = false ∧ isBlank c = false ∧
      c ≠ '-' := by
    have hdigit : ∀ d < 16, (Nat.digitChar d).toNat < 0x80 ∧ (Nat.digitChar d).isUpper = false ∧
        isBlank (Nat.digitChar d) = false ∧ Nat.digitChar d ≠ '-' := by decide
    intro c hc
    rw [toText, String.toList_ofList] at hc
    rcases mem_render hc with rfl | ⟨d, hd, rfl⟩
    · decide
    · exact hdigit d hd
  have htext : normalize a.toText = a.toText.toList.map fun c => if c = '-' then ':' else c := by
    rw [normalize, trim_of_no_blank fun c hc => (hchar c hc).2.2.1,
      lowercase_of_ascii (fun c hc => (hchar c hc).1) fun c hc => (hchar c hc).2.1]
  rw [htext, map_eq_self fun c hc => if_neg (hchar c hc).2.2.2, toText, String.toList_ofList]

/-- **An address with any bytes is read from its text as it was.** -/
theorem ofText_toText (h : a.bytes ≠ []) : ofText a.toText = .ok a := by
  have hread : (a.render.splitOn ':').mapM readByte = some a.bytes := by
    refine mapM_splitOn_intercalate h ?_ fun b _ => readByte_renderByte b
    intro b _ hmem
    exact (isHexDigit_of_mem_renderByte hmem).ne.1 rfl
  have hne : a.render ≠ [] := by
    intro hempty
    rw [hempty] at hread
    -- an empty text is one part, which is no byte
    cases hread
  have hform : ¬ a.render.isEmpty = true := by simpa using hne
  rw [ofText, normalize_toText]
  simp only [hform, hread]
  rfl

/-- An address that a client can have is not empty. -/
lemma ne_nil_of_validateFor {family : Family} (h : a.validateFor family = .ok ()) :
    a.bytes ≠ [] := by
  intro hnil
  rw [validateFor, hnil, List.length_nil] at h
  cases family <;> cases h

end DhcpLeasing.HwAddr
