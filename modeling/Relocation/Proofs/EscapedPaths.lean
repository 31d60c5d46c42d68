import Mathlib.Data.List.Basic
import Relocation.Http.Percent

/-! Every text has an escaped form that can stand between two slashes of a path, and reading the
escapes of that form gives the text back. -/

namespace Relocation.Http

def encodeByte (b : UInt8) : List Char :=
  ['%', Nat.digitChar (b.toNat / 16), Nat.digitChar (b.toNat % 16)]

/-- A text with all its bytes written as escapes. -/
def encodePercent (s : String) : String := String.ofList (s.toUTF8.toList.flatMap encodeByte)

theorem toList_loop_of_size {bytes : ByteArray} {left i : Nat} (h : i + left = bytes.size)
    (done : List UInt8) :
    ByteArray.toList.loop bytes i done = done.reverse ++ bytes.data.toList.drop i := by
  have hlength : bytes.data.toList.length = bytes.size := rfl
  unfold ByteArray.toList.loop
  induction left generalizing i done with
  | zero =>
    have hend : bytes.data.toList.length ≤ i := by omega
    rw [if_neg (by omega), List.drop_eq_nil_of_le hend, List.append_nil]
  | succ left ih =>
    have hi : i < bytes.data.toList.length := by omega
    have hbyte : bytes.get! i = bytes.data.toList[i] := getElem!_pos bytes.data i hi
    have hrest := ih (by omega : i + 1 + left = bytes.size) (bytes.get! i :: done)
    rw [if_pos (by omega), ByteArray.toList.loop, hrest, List.reverse_cons, hbyte,
      List.drop_eq_getElem_cons hi, List.append_assoc, List.singleton_append]

theorem toList_bytes (bytes : ByteArray) : bytes.toList = bytes.data.toList :=
  toList_loop_of_size (Nat.zero_add _) []

theorem utf8EncodeChar_of_ascii {c : Char} (h : c.toNat < 128) :
    String.utf8EncodeChar c = [UInt8.ofNat c.toNat] := by
  have hc : c.val.toNat ≤ 0x7f := Nat.le_of_lt_succ h
  unfold String.utf8EncodeChar
  exact if_pos hc

theorem toUTF8_ofList_of_ascii {cs : List Char} (h : ∀ c ∈ cs, c.toNat < 128) :
    (String.ofList cs).toUTF8.toList = cs.map fun c => UInt8.ofNat c.toNat := by
  have hbytes : (String.ofList cs).toUTF8 = (cs.flatMap String.utf8EncodeChar).toByteArray := rfl
  rw [hbytes, toList_bytes, List.toList_data_toByteArray]
  induction cs with
  | nil => rfl
  | cons c cs ih =>
    have hc := h c List.mem_cons_self
    have ht := ih (fun c' hm => h c' (List.mem_cons_of_mem _ hm)) rfl
    rw [List.flatMap_cons, utf8EncodeChar_of_ascii hc, ht]
    rfl

theorem hexDigit?_digitChar : ∀ n < 16,
    hexDigit? (UInt8.ofNat (Nat.digitChar n).toNat) = some n := by decide

theorem mem_encodeByte {b : UInt8} {c : Char} (h : c ∈ encodeByte b) :
    c.toNat < 128 ∧ c ≠ '/' := by
  have hdigit : ∀ n < 16, (Nat.digitChar n).toNat < 128 ∧ Nat.digitChar n ≠ '/' := by decide
  have hhigh : b.toNat / 16 < 16 := by
    have hb := b.toNat_lt
    omega
  have hlow : b.toNat % 16 < 16 := Nat.mod_lt _ (by decide)
  simp only [encodeByte, List.mem_cons, List.not_mem_nil, or_false] at h
  rcases h with rfl | rfl | rfl
  · decide
  · exact hdigit _ hhigh
  · exact hdigit _ hlow

theorem unescape_encodeByte (b : UInt8) (rest : List UInt8) :
    unescape ((encodeByte b).map (fun c => UInt8.ofNat c.toNat) ++ rest) = b :: unescape rest := by
  have hhigh : b.toNat / 16 < 16 := by
    have hb := b.toNat_lt
    omega
  have hlow : b.toNat % 16 < 16 := Nat.mod_lt _ (by decide)
  have hvalue : UInt8.ofNat (b.toNat / 16 * 16 + b.toNat % 16) = b := by
    rw [Nat.div_add_mod']
    exact UInt8.ofNat_toNat
  simp only [encodeByte, List.map_cons, List.map_nil, List.cons_append, List.nil_append]
  rw [unescape, hexDigit?_digitChar _ hhigh, hexDigit?_digitChar _ hlow]
  exact congrArg (· :: unescape rest) hvalue

theorem unescape_flatMap_encodeByte (bytes : List UInt8) :
    unescape ((bytes.flatMap encodeByte).map fun c => UInt8.ofNat c.toNat) = bytes := by
  induction bytes with
  | nil => rfl
  | cons b bytes ih =>
    rw [List.flatMap_cons, List.map_append, unescape_encodeByte, ih]

theorem decodePercent?_encodePercent (s : String) : decodePercent? (encodePercent s) = some s := by
  have hascii : ∀ c ∈ s.toUTF8.toList.flatMap encodeByte, c.toNat < 128 := by
    intro c hc
    obtain ⟨b, -, hb⟩ := List.mem_flatMap.mp hc
    exact (mem_encodeByte hb).1
  have hbytes : (⟨s.toUTF8.toList.toArray⟩ : ByteArray) = s.toUTF8 := by
    rw [toList_bytes]
  rw [decodePercent?, encodePercent, toUTF8_ofList_of_ascii hascii, unescape_flatMap_encodeByte,
    hbytes]
  exact dif_pos s.isValidUTF8

theorem slash_not_mem_encodePercent (s : String) : '/' ∉ (encodePercent s).toList := by
  rw [encodePercent, String.toList_ofList]
  intro h
  obtain ⟨b, -, hb⟩ := List.mem_flatMap.mp h
  exact (mem_encodeByte hb).2 rfl

end Relocation.Http
