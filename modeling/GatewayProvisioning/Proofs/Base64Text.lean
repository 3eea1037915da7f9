import Mathlib.Data.List.GetD
import Mathlib.Data.List.Nodup
import GatewayProvisioning.Text.Base64

/-!
# Base64 and back

Bytes that are written with 64 different characters are read back. No character fills up the last
group, so each character of the text stands for six bits.
-/

namespace GatewayProvisioning.Base64

/-- An alphabet with one character for each six bits. -/
structure IsAlphabet (alphabet : List Char) : Prop where
  length : alphabet.length = 64
  distinct : alphabet.Nodup

theorem isAlphabet_url : IsAlphabet urlAlphabet := ⟨by decide, by decide +kernel⟩

variable {alphabet : List Char}

theorem sextet_mem (h : IsAlphabet alphabet) (n : Nat) : sextet alphabet n ∈ alphabet := by
  have hlt : n % 64 < alphabet.length := by
    rw [h.length]
    exact Nat.mod_lt n (by decide)
  rw [sextet, List.getD_eq_getElem _ _ hlt]
  exact List.getElem_mem hlt

theorem value?_sextet (h : IsAlphabet alphabet) (n : Nat) :
    value? alphabet (sextet alphabet n) = some (n % 64) := by
  have hlt : n % 64 < alphabet.length := by
    rw [h.length]
    exact Nat.mod_lt n (by decide)
  rw [value?, sextet, List.getD_eq_getElem _ _ hlt, List.findIdx?_eq_some_iff_getElem]
  refine ⟨hlt, beq_self_eq_true _, fun i hi hsame => ?_⟩
  have heq := (h.distinct.getElem_inj_iff).mp (eq_of_beq hsame)
  omega

/-- Only the last eight bits of a number count for a byte. -/
theorem ofNat_eq_of_mod {n : Nat} {b : UInt8} (h : n % 256 = b.toNat) : UInt8.ofNat n = b := by
  rw [← UInt8.toNat_inj, UInt8.toNat_ofNat']
  exact h

theorem decodeWith?_encodeWith (h : IsAlphabet alphabet) (bytes : Bytes) :
    decodeWith? alphabet (encodeWith alphabet bytes) = some bytes := by
  induction bytes using encodeWith.induct with
  | case1 => rfl
  | case2 a =>
    have ha := a.toNat_lt
    obtain ⟨n, hn⟩ : ∃ n, n = a.toNat * 16 := ⟨_, rfl⟩
    have hwhole : n / 64 % 64 * 64 + n % 64 = n := by omega
    have hzero : n % 16 = 0 := by omega
    have hfirst : n / 16 % 256 = a.toNat := by omega
    simp only [encodeWith, ← hn, decodeWith?, value?_sextet h, bind, Option.bind]
    rw [hwhole, if_pos hzero, ofNat_eq_of_mod hfirst]
  | case3 a b =>
    have ha := a.toNat_lt
    have hb := b.toNat_lt
    obtain ⟨n, hn⟩ : ∃ n, n = (a.toNat * 256 + b.toNat) * 4 := ⟨_, rfl⟩
    have hwhole : (n / 4096 % 64 * 64 + n / 64 % 64) * 64 + n % 64 = n := by omega
    have hzero : n % 4 = 0 := by omega
    have hfirst : n / 1024 % 256 = a.toNat := by omega
    have hsecond : n / 4 % 256 = b.toNat := by omega
    simp only [encodeWith, ← hn, decodeWith?, value?_sextet h, bind, Option.bind]
    rw [hwhole, if_pos hzero, ofNat_eq_of_mod hfirst, ofNat_eq_of_mod hsecond]
  | case4 a b c rest ih =>
    have ha := a.toNat_lt
    have hb := b.toNat_lt
    have hc := c.toNat_lt
    obtain ⟨n, hn⟩ : ∃ n, n = (a.toNat * 256 + b.toNat) * 256 + c.toNat := ⟨_, rfl⟩
    have hwhole : ((n / 262144 % 64 * 64 + n / 4096 % 64) * 64 + n / 64 % 64) * 64 + n % 64 = n := by
      omega
    have hfirst : n / 65536 % 256 = a.toNat := by omega
    have hsecond : n / 256 % 256 = b.toNat := by omega
    have hthird : n % 256 = c.toNat := by omega
    simp only [encodeWith, ← hn, decodeWith?, value?_sextet h, bind, Option.bind, ih]
    rw [hwhole, ofNat_eq_of_mod hfirst, ofNat_eq_of_mod hsecond, ofNat_eq_of_mod hthird]
    rfl

theorem encodeWith_chars (h : IsAlphabet alphabet) (bytes : Bytes) :
    ∀ c ∈ encodeWith alphabet bytes, c ∈ alphabet := by
  induction bytes using encodeWith.induct with
  | case1 => simp [encodeWith]
  | case2 a => simp [encodeWith, sextet_mem h]
  | case3 a b => simp [encodeWith, sextet_mem h]
  | case4 a b c rest ih => simpa [encodeWith, sextet_mem h] using ih

theorem decodeUrl?_encodeUrl (bytes : Bytes) : decodeUrl? (encodeUrl bytes) = some bytes := by
  unfold decodeUrl? encodeUrl
  rw [String.toList_ofList]
  exact decodeWith?_encodeWith isAlphabet_url bytes

theorem encodeUrl_chars (bytes : Bytes) : ∀ c ∈ (encodeUrl bytes).toList, c ∈ urlAlphabet := by
  unfold encodeUrl
  rw [String.toList_ofList]
  exact encodeWith_chars isAlphabet_url bytes

end GatewayProvisioning.Base64
