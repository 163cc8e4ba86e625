/-
  EngineBindings/Proofs/FileTree/Encoding.lean
  ============================================
  **What is written is read back.**

  An encoding writes a text as bytes that it reads as the same text (`decode?_encode?`).  With
  UTF-8 this is a fact of the library.  With the two encodings of one byte a character it holds
  because no character that they write has a number beyond those of a byte.
-/
import EngineBindings.FileTree.Encoding
import Mathlib.Data.List.Basic

namespace EngineBindings.Encoding

theorem width_le_of_width? {encoding : Encoding} {width : Nat}
    (hwidth : encoding.width? = some width) : width ≤ 256 := by
  cases encoding with
  | utf8 => cases hwidth
  | latin1 => exact Nat.le_of_eq (Option.some.inj hwidth).symm
  | ascii =>
    rw [← Option.some.inj hwidth]
    decide

theorem toNat_byte {c : Char} (hnarrow : c.toNat < 256) : (UInt8.ofNat c.toNat).toNat = c.toNat := by
  rw [UInt8.toNat_ofNat']
  exact Nat.mod_eq_of_lt hnarrow

/-- Characters of one byte each are read back from their bytes. -/
theorem map_ofNat_map_byte {cs : List Char} (hnarrow : ∀ c ∈ cs, c.toNat < 256) :
    (cs.map fun c => UInt8.ofNat c.toNat).map (fun b => Char.ofNat b.toNat) = cs := by
  rw [List.map_map]
  refine (List.map_congr_left ?_).trans (List.map_id cs)
  intro c hc
  change Char.ofNat (UInt8.ofNat c.toNat).toNat = c
  rw [toNat_byte (hnarrow c hc), Char.ofNat_toNat]

theorem decode?_encode? {encoding : Encoding} {text : String} {bytes : ByteArray}
    (hencode : encoding.encode? text = some bytes) : encoding.decode? bytes = some text := by
  unfold encode? at hencode
  unfold decode?
  cases hwidth : encoding.width? with
  | none =>
    rw [hwidth] at hencode
    have hbytes : text.toByteArray = bytes := Option.some.inj hencode
    subst hbytes
    change String.fromUTF8? text.toByteArray = some text
    rw [String.fromUTF8?, dif_pos text.isValidUTF8]
    rfl
  | some width =>
    rw [hwidth] at hencode
    dsimp only at hencode ⊢
    split at hencode
    · rename_i hall
      have hfits : ∀ c ∈ text.toList, c.toNat < width := by
        intro c hc
        simpa using List.all_eq_true.mp hall c hc
      have hnarrow : ∀ c ∈ text.toList, c.toNat < 256 := by
        intro c hc
        exact Nat.lt_of_lt_of_le (hfits c hc) (width_le_of_width? hwidth)
      have hread : ((text.toList.map fun c => UInt8.ofNat c.toNat).all fun b =>
          b.toNat < width) = true := by
        rw [List.all_map, List.all_eq_true]
        intro c hc
        simpa [toNat_byte (hnarrow c hc)] using hfits c hc
      rw [← Option.some.inj hencode]
      dsimp only
      rw [if_pos hread, map_ofNat_map_byte hnarrow, String.ofList_toList]
    · cases hencode

theorem exists_encode?_of_fits {encoding : Encoding} {text : String}
    (hfits : ∀ width, encoding.width? = some width → ∀ c ∈ text.toList, c.toNat < width) :
    ∃ bytes, encoding.encode? text = some bytes := by
  unfold encode?
  cases hwidth : encoding.width? with
  | none => exact ⟨_, rfl⟩
  | some width =>
    dsimp only
    rw [if_pos (by simpa using hfits width hwidth)]
    exact ⟨_, rfl⟩

theorem lt_width_of_decode? {encoding : Encoding} {bytes : ByteArray} {text : String}
    (hdecode : encoding.decode? bytes = some text) {width : Nat}
    (hwidth : encoding.width? = some width) {c : Char} (hc : c ∈ text.toList) :
    c.toNat < width := by
  have hle := width_le_of_width? hwidth
  unfold decode? at hdecode
  rw [hwidth] at hdecode
  dsimp only at hdecode
  split at hdecode
  · rename_i hall
    rw [← Option.some.inj hdecode, String.toList_ofList] at hc
    obtain ⟨b, hb, rfl⟩ := List.mem_map.mp hc
    have hnarrow : b.toNat < width := by simpa using List.all_eq_true.mp hall b hb
    have hvalid : b.toNat.isValidChar := Or.inl (by omega)
    rw [Char.ofNat, dif_pos hvalid]
    exact hnarrow
  · cases hdecode

/-- What was read can be written again, and line feeds with it. -/
theorem exists_encode?_of_decode? {encoding : Encoding} {bytes : ByteArray} {text other : String}
    (hdecode : encoding.decode? bytes = some text)
    (hchars : ∀ c ∈ other.toList, c ∈ text.toList ∨ c = '\n') :
    ∃ written, encoding.encode? other = some written := by
  apply exists_encode?_of_fits
  intro width hwidth c hc
  rcases hchars c hc with hread | rfl
  · exact lt_width_of_decode? hdecode hwidth hread
  · cases encoding with
    | utf8 => cases hwidth
    | latin1 =>
      rw [← Option.some.inj hwidth]
      decide
    | ascii =>
      rw [← Option.some.inj hwidth]
      decide

end EngineBindings.Encoding
