import Mathlib.Data.List.Induction
import Mathlib.Tactic.Ring
import GatewayProvisioning.Pem.Base64
import GatewayProvisioning.Proofs.Base64Text

/-!
# Base64 text of a section

Bytes are read back from their base64 text, wherever it is broken into lines. The reader takes eight
characters at a time and the writer four, so the induction carries the four digits that the reader
may still hold.
-/

namespace GatewayProvisioning.Pem

open Base64 (IsAlphabet encodeWith encodeWith_chars ofNat_eq_of_mod sextet standardAlphabet)

/-! ## Writing -/

/-- What fills up the last group of four. -/
def filling (content : Bytes) : List Char :=
  List.replicate ((3 - content.length % 3) % 3) '='

/-- The base64 text of bytes. -/
def base64Text (content : Bytes) : Bytes :=
  (encodeWith standardAlphabet content ++ filling content).map fun c => UInt8.ofNat c.toNat

/-- The byte of a digit of six bits. -/
def digitByte (n : Nat) : UInt8 :=
  UInt8.ofNat (sextet standardAlphabet n).toNat

theorem digitByte_mod (n : Nat) : digitByte n = digitByte (n % 64) := by
  unfold digitByte sextet
  rw [Nat.mod_mod]

theorem symbol_digitByte (n : Nat) : Symbol.of (digitByte n) = .digit (n % 64) := by
  have hall : ∀ m < 64, Symbol.of (digitByte m) = .digit m := by decide +kernel
  rw [digitByte_mod]
  exact hall _ (Nat.mod_lt n (by decide))

/-- The four digits of three bytes. -/
def quad (a b c : UInt8) : List Nat :=
  let n := (a.toNat * 256 + b.toNat) * 256 + c.toNat
  [n / 262144 % 64, n / 4096 % 64, n / 64 % 64, n % 64]

theorem quad_lt (a b c : UInt8) : ∀ d ∈ quad a b c, d < 64 := by
  intro d hd
  simp only [quad, List.mem_cons, List.not_mem_nil, or_false] at hd
  omega

theorem quad_mod (a b c : UInt8) : (quad a b c).map (· % 64) = quad a b c := by
  simp [quad]

theorem base64Text_three (a b c : UInt8) (rest : Bytes) :
    base64Text (a :: b :: c :: rest) = (quad a b c).map digitByte ++ base64Text rest := by
  have hfilling : filling (a :: b :: c :: rest) = filling rest := by
    unfold filling
    simp only [List.length_cons]
    congr 2
    omega
  simp only [base64Text, hfilling, encodeWith, quad, List.cons_append, List.map_cons, List.map_nil,
    List.nil_append, ← digitByte_mod]
  rfl

/-! ## Bytes of digits -/

theorem bytesOfDigits_nil : bytesOfDigits [] = [] := rfl

theorem bytesOfDigits_one (a : UInt8) :
    bytesOfDigits [a.toNat * 16 / 64 % 64, a.toNat * 16 % 64] = [a] := by
  have ha := a.toNat_lt
  have hbyte : (64 * (a.toNat * 16 / 64 % 64) + a.toNat * 16 % 64) / 16 % 256 = a.toNat := by omega
  simp [bytesOfDigits, sextetsValue, List.range_succ, Nat.shiftRight_eq_div_pow, ofNat_eq_of_mod hbyte]

theorem bytesOfDigits_two (a b : UInt8) :
    bytesOfDigits [(a.toNat * 256 + b.toNat) * 4 / 4096 % 64, (a.toNat * 256 + b.toNat) * 4 / 64 % 64,
      (a.toNat * 256 + b.toNat) * 4 % 64] = [a, b] := by
  have ha := a.toNat_lt
  have hb := b.toNat_lt
  obtain ⟨n, hn⟩ : ∃ n, n = (a.toNat * 256 + b.toNat) * 4 := ⟨_, rfl⟩
  rw [← hn]
  have hfirst : (64 * (64 * (n / 4096 % 64) + n / 64 % 64) + n % 64) / 4 / 256 % 256 = a.toNat := by
    omega
  have hsecond : (64 * (64 * (n / 4096 % 64) + n / 64 % 64) + n % 64) / 4 % 256 = b.toNat := by omega
  simp [bytesOfDigits, sextetsValue, List.range_succ, Nat.shiftRight_eq_div_pow,
    ofNat_eq_of_mod hfirst, ofNat_eq_of_mod hsecond]

theorem ofNat_eq_ofNat {m n : Nat} (h : m % 256 = n % 256) : UInt8.ofNat m = UInt8.ofNat n := by
  apply ofNat_eq_of_mod
  rw [UInt8.toNat_ofNat']
  exact h

/-- The last bytes of a number, the highest first. -/
def octets (count value : Nat) : Bytes :=
  (List.range count).reverse.map fun i => UInt8.ofNat (value >>> (8 * i))

theorem octets_add {m v : Nat} (hv : v < 2 ^ (8 * m)) (k n : Nat) :
    octets (m + k) (2 ^ (8 * m) * n + v) = octets k n ++ octets m v := by
  have hhigh : (2 ^ (8 * m) * n + v) >>> (8 * m) = n := by
    rw [Nat.shiftRight_eq_div_pow, Nat.mul_add_div (Nat.two_pow_pos _), Nat.div_eq_of_lt hv,
      Nat.add_zero]
  unfold octets
  rw [List.range_add, List.reverse_append, List.map_append, ← List.map_reverse, List.map_map]
  congr 1
  · refine List.map_congr_left fun i _ => ?_
    rw [Function.comp_apply, Nat.mul_add, Nat.shiftRight_add, hhigh]
  · refine List.map_congr_left fun i hi => ofNat_eq_ofNat ?_
    have him : i < m := by simpa using hi
    obtain ⟨j, rfl⟩ : ∃ j, m = i + 1 + j := ⟨m - (i + 1), by omega⟩
    have hpow : 2 ^ (8 * (i + 1 + j)) * n = 2 ^ (8 * i) * (256 * (2 ^ (8 * j) * n)) := by
      rw [Nat.mul_add, Nat.mul_add, pow_add, pow_add]
      ring
    rw [Nat.shiftRight_eq_div_pow, Nat.shiftRight_eq_div_pow, hpow,
      Nat.mul_add_div (Nat.two_pow_pos _), Nat.mul_add_mod]

theorem octets_three (a b c : UInt8) :
    octets 3 ((a.toNat * 256 + b.toNat) * 256 + c.toNat) = [a, b, c] := by
  have hb := b.toNat_lt
  have hc := c.toNat_lt
  have hfirst : ((a.toNat * 256 + b.toNat) * 256 + c.toNat) / 65536 % 256 = a.toNat := by
    have ha := a.toNat_lt
    omega
  have hsecond : ((a.toNat * 256 + b.toNat) * 256 + c.toNat) / 256 % 256 = b.toNat := by omega
  have hthird : ((a.toNat * 256 + b.toNat) * 256 + c.toNat) % 256 = c.toNat := by omega
  simp [octets, List.range_succ, Nat.shiftRight_eq_div_pow, ofNat_eq_of_mod hfirst,
    ofNat_eq_of_mod hsecond, ofNat_eq_of_mod hthird]

theorem sextetsValue_snoc (ds : List Nat) (d : Nat) :
    sextetsValue (ds ++ [d]) = 64 * sextetsValue ds + d := by
  simp [sextetsValue]

theorem sextetsValue_append (ds es : List Nat) :
    sextetsValue (ds ++ es) = 64 ^ es.length * sextetsValue ds + sextetsValue es := by
  induction es using List.reverseRecOn with
  | nil => simp [sextetsValue]
  | append_singleton es e ih =>
    rw [← List.append_assoc, sextetsValue_snoc, sextetsValue_snoc, ih, List.length_append,
      List.length_singleton, pow_succ]
    ring

theorem sextetsValue_lt {ds : List Nat} (h : ∀ d ∈ ds, d < 64) :
    sextetsValue ds < 64 ^ ds.length := by
  induction ds using List.reverseRecOn with
  | nil => simp [sextetsValue]
  | append_singleton ds d ih =>
    have hd := h d (by simp)
    have hds := ih fun e he => h e (by simp [he])
    rw [sextetsValue_snoc, List.length_append, List.length_singleton, pow_succ]
    omega

theorem sextetsValue_quad (a b c : UInt8) :
    sextetsValue (quad a b c) = (a.toNat * 256 + b.toNat) * 256 + c.toNat := by
  have ha := a.toNat_lt
  have hb := b.toNat_lt
  have hc := c.toNat_lt
  simp only [sextetsValue, quad, List.foldl_cons, List.foldl_nil]
  omega

/-- Four digits stand for three bytes, whatever digits follow. -/
theorem bytesOfDigits_quad (a b c : UInt8) {ds : List Nat} (h : ∀ d ∈ ds, d < 64) :
    bytesOfDigits (quad a b c ++ ds) = a :: b :: c :: bytesOfDigits ds := by
  obtain ⟨m, hm⟩ : ∃ m, m = ds.length * 6 / 8 := ⟨_, rfl⟩
  obtain ⟨r, hr⟩ : ∃ r, r = ds.length * 6 % 8 := ⟨_, rfl⟩
  have hpow : 64 ^ ds.length = 2 ^ r * 2 ^ (8 * m) := by
    rw [← pow_add, show (64 : Nat) = 2 ^ 6 from rfl, ← pow_mul]
    congr 1
    omega
  have hlow : sextetsValue ds / 2 ^ r < 2 ^ (8 * m) := by
    apply Nat.div_lt_of_lt_mul
    rw [← hpow]
    exact sextetsValue_lt h
  have hcount : (quad a b c ++ ds).length * 6 / 8 = m + 3 := by
    rw [List.length_append, show (quad a b c).length = 4 from rfl]
    omega
  have hrest : (quad a b c ++ ds).length * 6 % 8 = r := by
    rw [List.length_append, show (quad a b c).length = 4 from rfl]
    omega
  have hvalue : sextetsValue (quad a b c ++ ds) >>> r =
      2 ^ (8 * m) * ((a.toNat * 256 + b.toNat) * 256 + c.toNat) + sextetsValue ds / 2 ^ r := by
    rw [sextetsValue_append, sextetsValue_quad, hpow, Nat.shiftRight_eq_div_pow, Nat.mul_assoc,
      Nat.mul_add_div (Nat.two_pow_pos _)]
  calc bytesOfDigits (quad a b c ++ ds)
      = octets (m + 3) (sextetsValue (quad a b c ++ ds) >>> r) := by
        rw [← hcount, ← hrest]
        rfl
    _ = [a, b, c] ++ octets m (sextetsValue ds / 2 ^ r) := by
        rw [hvalue, octets_add hlow, octets_three]
    _ = a :: b :: c :: bytesOfDigits ds := by
        rw [← Nat.shiftRight_eq_div_pow, hm, hr]
        rfl

/-! ## Reading -/

theorem decodeFrom_push {ds : List Nat} (h : ds.length < 7) (n : Nat) (rest : Bytes) :
    decodeFrom ⟨ds, 0⟩ (digitByte n :: rest) = decodeFrom ⟨ds ++ [n % 64], 0⟩ rest := by
  have hsize : ¬ Group.size ⟨ds ++ [n % 64], 0⟩ = 8 := by
    simp only [Group.size, List.length_append, List.length_singleton]
    omega
  simp [decodeFrom, symbol_digitByte, Group.push, hsize, bind, Except.bind]

/-- Digits are held as long as they do not fill the group. -/
theorem decodeFrom_hold {ds ns : List Nat} (h : ds.length + ns.length < 8) (rest : Bytes) :
    decodeFrom ⟨ds, 0⟩ (ns.map digitByte ++ rest) = decodeFrom ⟨ds ++ ns.map (· % 64), 0⟩ rest := by
  induction ns generalizing ds with
  | nil => simp
  | cons n ns ih =>
    rw [List.length_cons] at h
    have hheld : (ds ++ [n % 64]).length + ns.length < 8 := by
      rw [List.length_append, List.length_singleton]
      omega
    rw [List.map_cons, List.cons_append, decodeFrom_push (by omega), ih hheld, List.map_cons,
      List.append_assoc, List.singleton_append]

theorem decodeFrom_fill {ds : List Nat} (h : ds.length = 7) (n : Nat) (rest : Bytes) :
    decodeFrom ⟨ds, 0⟩ (digitByte n :: rest) =
      (decodeFrom {} rest).map (bytesOfDigits (ds ++ [n % 64]) ++ ·) := by
  have hsize : Group.size ⟨ds ++ [n % 64], 0⟩ = 8 := by simp [Group.size, h]
  simp only [decodeFrom, symbol_digitByte, Group.push, Nat.lt_irrefl, if_false, bind, Except.bind,
    hsize, if_true, Group.finishFull, Nat.zero_le, pure, Except.pure]
  cases decodeFrom {} rest <;> rfl

theorem decodeFrom_quad (x y z : UInt8) (rest : Bytes) :
    decodeFrom {} ((quad x y z).map digitByte ++ rest) = decodeFrom ⟨quad x y z, 0⟩ rest := by
  have hfits : ([] : List Nat).length + (quad x y z).length < 8 := show 0 + 4 < 8 by decide
  have hheld := decodeFrom_hold hfits rest
  rwa [List.nil_append, quad_mod] at hheld

theorem decodeFrom_quad_quad (x y z a b c : UInt8) (rest : Bytes) :
    decodeFrom ⟨quad x y z, 0⟩ ((quad a b c).map digitByte ++ rest) =
      (decodeFrom {} rest).map ([x, y, z, a, b, c] ++ ·) := by
  have hbytes : bytesOfDigits (quad x y z ++ quad a b c) = [x, y, z, a, b, c] := by
    rw [bytesOfDigits_quad x y z (quad_lt a b c), ← List.append_nil (quad a b c),
      bytesOfDigits_quad a b c (by simp)]
    rfl
  rw [← hbytes]
  simp [quad, decodeFrom_push, decodeFrom_fill]

theorem decodeFrom_end {ds : List Nat} (h : ds.length = 0 ∨ ds.length = 4) :
    decodeFrom ⟨ds, 0⟩ [] = .ok (bytesOfDigits ds) := by
  rcases h with h | h <;> simp [decodeFrom, Group.finish, Group.size, h]

/-- Two or three digits at the end are filled up to four characters. -/
theorem decodeFrom_filled {ds ns : List Nat} (h : ds.length = 0 ∨ ds.length = 4)
    (hns : ns.length = 2 ∨ ns.length = 3) :
    decodeFrom ⟨ds, 0⟩ (ns.map digitByte ++ List.replicate (4 - ns.length) 0x3D) =
      .ok (bytesOfDigits (ds ++ ns.map (· % 64))) := by
  rw [decodeFrom_hold (by omega)]
  -- the last `=` fills the group, or it is left to the end of the text
  rcases h with h | h <;> rcases hns with hn | hn <;>
    simp [decodeFrom, Symbol.of, Group.size, Group.finish, Group.finishFull, h, hn,
      bytesOfDigits_nil, List.replicate, bind, Except.bind, pure, Except.pure]

/-- The last digits are read after a full group and after half of one. -/
theorem decodeFrom_last {ns : List Nat} {last : Bytes} (hns : ns.length = 2 ∨ ns.length = 3)
    (hlast : bytesOfDigits (ns.map (· % 64)) = last) :
    decodeFrom {} (ns.map digitByte ++ List.replicate (4 - ns.length) 0x3D) = .ok last ∧
      ∀ x y z, decodeFrom ⟨quad x y z, 0⟩ (ns.map digitByte ++ List.replicate (4 - ns.length) 0x3D) =
        .ok (x :: y :: z :: last) := by
  have hlow : ∀ d ∈ ns.map (· % 64), d < 64 := by
    intro d hd
    obtain ⟨n, -, rfl⟩ := List.mem_map.mp hd
    exact Nat.mod_lt n (by decide)
  refine ⟨?_, fun x y z => ?_⟩
  · rw [show ({} : Group) = ⟨[], 0⟩ from rfl, decodeFrom_filled (.inl rfl) hns, List.nil_append, hlast]
  · rw [decodeFrom_filled (.inr rfl) hns, bytesOfDigits_quad x y z hlow, hlast]

theorem base64Text_one (a : UInt8) :
    base64Text [a] =
      [a.toNat * 16 / 64, a.toNat * 16].map digitByte ++ List.replicate 2 0x3D := rfl

theorem base64Text_two (a b : UInt8) :
    base64Text [a, b] =
      [(a.toNat * 256 + b.toNat) * 4 / 4096, (a.toNat * 256 + b.toNat) * 4 / 64,
        (a.toNat * 256 + b.toNat) * 4].map digitByte ++ List.replicate 1 0x3D := rfl

/-- What is written is read back, also after a first half of a group. -/
theorem decodeFrom_base64Text (content : Bytes) :
    decodeFrom {} (base64Text content) = .ok content ∧
      ∀ x y z, decodeFrom ⟨quad x y z, 0⟩ (base64Text content) = .ok (x :: y :: z :: content) := by
  induction content using Base64.encodeWith.induct with
  | case1 =>
    refine ⟨rfl, fun x y z => ?_⟩
    rw [show base64Text [] = [] from rfl, decodeFrom_end (.inr rfl), ← List.append_nil (quad x y z),
      bytesOfDigits_quad x y z (by simp)]
    rfl
  | case2 a =>
    rw [base64Text_one]
    exact decodeFrom_last (.inl rfl) (bytesOfDigits_one a)
  | case3 a b =>
    rw [base64Text_two]
    exact decodeFrom_last (.inr rfl) (bytesOfDigits_two a b)
  | case4 a b c rest ih =>
    obtain ⟨hfresh, hheld⟩ := ih
    rw [base64Text_three]
    refine ⟨?_, fun x y z => ?_⟩
    · rw [decodeFrom_quad, hheld]
    · rw [decodeFrom_quad_quad, hfresh]
      rfl

/-! ## Line breaks -/

/-- Whether a byte of base64 text counts. -/
def counts (b : UInt8) : Bool :=
  Symbol.of b != .blank

theorem decodeFrom_filter (g : Group) (text : Bytes) :
    decodeFrom g (text.filter counts) = decodeFrom g text := by
  induction text generalizing g with
  | nil => rfl
  | cons b rest ih =>
    by_cases hb : Symbol.of b = .blank
    · simp [counts, hb, decodeFrom, ← ih]
    · rw [List.filter_cons_of_pos (by simpa [counts] using hb)]
      simp only [decodeFrom, ih]

theorem isAlphabet_standard : IsAlphabet standardAlphabet := ⟨by decide, by decide⟩

/-- What holds of all characters of the alphabet and of `=` holds of all bytes of base64 text. -/
theorem forall_mem_base64Text {p : UInt8 → Bool}
    (h : ('=' :: standardAlphabet).all fun c => p (UInt8.ofNat c.toNat)) (content : Bytes) :
    ∀ b ∈ base64Text content, p b = true := by
  intro b hb
  obtain ⟨c, hc, rfl⟩ := List.mem_map.mp hb
  apply List.all_eq_true.mp h
  rcases List.mem_append.mp hc with hdigit | hpad
  · exact List.mem_cons_of_mem _ (encodeWith_chars isAlphabet_standard content c hdigit)
  · rw [List.eq_of_mem_replicate hpad]
    exact List.mem_cons_self

theorem decodeBase64_rows {rows : List Bytes} {content : Bytes}
    (h : rows.flatten = base64Text content) :
    decodeBase64 (rows.flatMap (· ++ [0x0A])) = .ok content := by
  have hrow : ∀ row ∈ rows, (row ++ [0x0A]).filter counts = row := by
    intro row hmem
    have hall : ∀ b ∈ row, counts b = true := fun b hb =>
      forall_mem_base64Text (by decide) content b (h ▸ List.mem_flatten_of_mem hmem hb)
    rw [List.filter_append, List.filter_eq_self.mpr hall]
    simp [counts, Symbol.of]
  have hfilter : (rows.flatMap (· ++ [0x0A])).filter counts = base64Text content := by
    have hrows : rows.map (fun row => (row ++ [0x0A]).filter counts) = rows :=
      (List.map_congr_left hrow).trans (List.map_id rows)
    rw [List.flatMap_def, List.filter_flatten, List.map_map, ← h]
    exact congrArg List.flatten hrows
  rw [decodeBase64, ← decodeFrom_filter, hfilter]
  exact (decodeFrom_base64Text content).1

end GatewayProvisioning.Pem
