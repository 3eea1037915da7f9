import GatewayProvisioning.Pem.Section
import GatewayProvisioning.Proofs.Cutting
import GatewayProvisioning.Proofs.PemBase64
import GatewayProvisioning.Proofs.Utf8

/-!
# Which sections a file has

A file is a row of parts: lines of text, and blocks with any label. The scan goes from outside all
blocks to outside all blocks over each part, and has then found the section of the part, if its label
is known. So the text around a block and the blocks around it do not matter to it.
-/

namespace GatewayProvisioning.Pem

/-- A part of a file: a line of text, or a block with its label, its content and the rows that the
base64 text of the content is broken into. -/
inductive Part where
  | remark (line : Bytes)
  | block (label : String) (content : Bytes) (rows : List Bytes)

namespace Part

/-- Whether a character may stand in a label: an upper-case letter, a digit or a space. -/
def inLabel (c : Char) : Bool :=
  (0x41 ≤ c.toNat && c.toNat ≤ 0x5A) || (0x30 ≤ c.toNat && c.toNat ≤ 0x39) || c.toNat == 0x20

/-- What makes a part well formed. A line of text may be any that does not begin a block, and the base64
text of a block may be broken anywhere. -/
def Sound : Part → Prop
  | remark line => line.all (!isLineEnd ·) ∧ ¬beginMark <+: line
  | block label content rows => label.toList.all inLabel ∧ rows.flatten = base64Text content

instance : DecidablePred Sound
  | remark _ => inferInstanceAs (Decidable (_ ∧ _))
  | block _ _ _ => inferInstanceAs (Decidable (_ ∧ _))

/-- The lines of a part. -/
def lines : Part → List Bytes
  | remark line => [line]
  | block label _ rows =>
    (beginMark ++ Utf8.encode label ++ dashes) :: rows ++ [endMark ++ Utf8.encode label ++ dashes]

/-- The section of a part, if its label is known. -/
def section? : Part → Option Section
  | remark _ => none
  | block label content _ => (Kind.ofLabel? (Utf8.encode label)).map (⟨·, content⟩)

/-- The label of a part. -/
def label? : Part → Option String
  | remark _ => none
  | block label _ _ => some label

end Part

/-- The text of a file: each line with the byte that ends it. -/
def fileOf (parts : List Part) : Bytes :=
  (parts.flatMap Part.lines).flatMap (· ++ [0x0A])

/-- The labels of the blocks of a file. -/
def labels (parts : List Part) : List String :=
  parts.filterMap Part.label?

/-! ## Labels -/

/-- A byte of a label or of base64 text: it ends no line and is no dash. -/
def labelByte (b : UInt8) : Bool :=
  !isLineEnd b && b != 0x2D

theorem isLineEnd_of_labelByte {b : UInt8} (h : labelByte b = true) : isLineEnd b = false := by
  simp only [labelByte, Bool.and_eq_true, Bool.not_eq_true'] at h
  exact h.1

theorem labelByte_of_inLabel {c : Char} (h : Part.inLabel c = true) :
    c.toNat < 0x80 ∧ labelByte (UInt8.ofNat c.toNat) = true := by
  have hall : ∀ n < 0x80, (0x41 ≤ n ∧ n ≤ 0x5A) ∨ (0x30 ≤ n ∧ n ≤ 0x39) ∨ n = 0x20 →
      labelByte (UInt8.ofNat n) = true := by
    decide
  simp only [Part.inLabel, Bool.or_eq_true, Bool.and_eq_true, decide_eq_true_eq, beq_iff_eq,
    or_assoc] at h
  have hlow : c.toNat < 0x80 := by omega
  exact ⟨hlow, hall _ hlow h⟩

theorem encode_label {label : String} (h : label.toList.all Part.inLabel) :
    ∀ b ∈ Utf8.encode label, labelByte b = true := by
  have hall := List.all_eq_true.mp h
  have hbytes : Utf8.encode label = label.toList.map fun c => UInt8.ofNat c.toNat :=
    Utf8.encodeChars_ascii fun c hc => (labelByte_of_inLabel (hall c hc)).1
  intro b hb
  rw [hbytes] at hb
  obtain ⟨c, hc, rfl⟩ := List.mem_map.mp hb
  exact (labelByte_of_inLabel (hall c hc)).2

theorem labelByte_of_mem_row {rows : List Bytes} {content : Bytes}
    (h : rows.flatten = base64Text content) : ∀ row ∈ rows, ∀ b ∈ row, labelByte b = true :=
  fun _ hrow b hb =>
    forall_mem_base64Text (by decide) content b (h ▸ List.mem_flatten_of_mem hrow hb)

/-- A label is known by its whole text. -/
theorem Kind.ofLabel?_encode {label : String} {kind : Kind} :
    Kind.ofLabel? (Utf8.encode label) = some kind ↔ (label, kind) ∈ Kind.labels := by
  constructor
  · intro h
    obtain ⟨⟨name, kind'⟩, hfind, rfl⟩ := Option.map_eq_some_iff.mp h
    have hname : Utf8.encode name = Utf8.encode label := by
      simpa using List.find?_some hfind
    rw [← Utf8.encode_inj hname]
    exact List.mem_of_find?_eq_some hfind
  · intro h
    have hall : ∀ entry ∈ Kind.labels, Kind.ofLabel? (Utf8.encode entry.1) = some entry.2 := by
      decide
    exact hall (label, kind) h

/-! ## Lines -/

theorem lines_append {line : Bytes} (h : ∀ b ∈ line, isLineEnd b = false) (rest : Bytes) :
    lines (line ++ [0x0A] ++ rest) = (line ++ [0x0A]) :: lines rest := by
  induction line with
  | nil => rfl
  | cons b line ih =>
    have hrest := ih fun c hc => h c (List.mem_cons_of_mem b hc)
    rw [List.cons_append, List.cons_append, lines, hrest, h b List.mem_cons_self]
    rfl

theorem lines_flatMap {rows : List Bytes} (h : ∀ row ∈ rows, ∀ b ∈ row, isLineEnd b = false) :
    lines (rows.flatMap (· ++ [0x0A])) = rows.map (· ++ [0x0A]) := by
  induction rows with
  | nil => rfl
  | cons row rows ih =>
    rw [List.flatMap_cons, lines_append (h row List.mem_cons_self),
      ih fun r hr => h r (List.mem_cons_of_mem row hr), List.map_cons]

/-- The label stands before the last dashes, even if it ends in spaces. -/
theorem startLabel_begin {label : Bytes} (h : ∀ b ∈ label, labelByte b = true) :
    startLabel (beginMark ++ label ++ dashes ++ [0x0A]) = .ok label := by
  obtain ⟨spaces, hspaces⟩ :
      ∃ spaces, spaces = (label.reverse ++ [0x20, 0x4E]).takeWhile isTrailer := ⟨_, rfl⟩
  have hmark : beginMark.reverse = [0x20, 0x4E] ++ beginMark.reverse.drop 2 := by decide
  have hdashes : dashes = [0x2D, 0x2D, 0x2D, 0x2D, 0x2D] := by decide
  have hnodash : ∀ b ∈ spaces, b ≠ 0x2D := by
    intro b hb
    rw [hspaces] at hb
    rcases List.mem_append.mp (List.takeWhile_subset _ hb) with hlabel | hmark
    · have hbyte := h b (List.mem_reverse.mp hlabel)
      rintro rfl
      cases hbyte
    · rintro rfl
      exact absurd hmark (by decide)
  have htrailer : ((beginMark ++ label ++ dashes ++ [0x0A]).reverse.takeWhile isTrailer).reverse =
      spaces.reverse ++ (dashes ++ [0x0A]) := by
    have hrev : (beginMark ++ label ++ dashes ++ [0x0A]).reverse =
        (dashes ++ [0x0A]).reverse ++ ((label.reverse ++ [0x20, 0x4E]) ++ beginMark.reverse.drop 2) := by
      simp only [List.reverse_append, List.append_assoc]
      rw [hmark]
      simp
    have hend : ((dashes ++ [0x0A]).reverse).all isTrailer := by decide
    rw [hrev, List.takeWhile_append_of_pos (List.all_eq_true.mp hend),
      Text.takeWhile_append_of_mem ⟨0x4E, by simp, by decide⟩, ← hspaces, List.reverse_append,
      List.reverse_reverse]
  have hcount : (spaces.reverse ++ (dashes ++ [0x0A])).countP (· == 0x2D) = 5 := by
    have hzero : spaces.reverse.countP (· == 0x2D) = 0 := by
      simpa [List.countP_eq_zero] using hnodash
    rw [List.countP_append, hzero, hdashes]
    rfl
  have hrest : (spaces.reverse ++ (dashes ++ [0x0A])).dropWhile (· != 0x2D) = dashes ++ [0x0A] := by
    rw [List.dropWhile_append_of_pos (by simpa using hnodash), hdashes]
    rfl
  have hlength : (beginMark ++ label ++ dashes ++ [0x0A]).length - (dashes ++ [0x0A]).length =
      (beginMark ++ label).length := by
    simp only [List.length_append]
    omega
  have htake : (beginMark ++ label ++ dashes ++ [0x0A]).take (beginMark ++ label).length =
      beginMark ++ label := by
    rw [List.append_assoc (beginMark ++ label), List.take_left]
  simp only [startLabel, htrailer, if_pos hcount, hrest, hlength, htake, List.drop_left]

/-! ## Scanning -/

/-- A row of base64 text neither begins nor ends a section. -/
theorem isPrefixOf_row {mark row : Bytes} (hmark : mark.head? = some 0x2D)
    (h : ∀ b ∈ row, labelByte b = true) : mark.isPrefixOf (row ++ [0x0A]) = false := by
  rw [← Bool.not_eq_true, List.isPrefixOf_iff_prefix]
  intro hstarts
  have hfirst := List.IsPrefix.subset hstarts (List.mem_of_mem_head? hmark)
  rcases List.mem_append.mp hfirst with hrow | hend
  · cases h _ hrow
  · cases List.eq_of_mem_singleton hend

theorem head?_beginMark : beginMark.head? = some 0x2D := by decide

theorem head?_endMark_append (rest : Bytes) : (endMark ++ rest).head? = some 0x2D := by
  rw [List.head?_append, show endMark.head? = some 0x2D by decide]
  rfl

theorem scanLines_rows {rows : List Bytes} (h : ∀ row ∈ rows, ∀ b ∈ row, labelByte b = true)
    (label text : Bytes) (rest : List Bytes) :
    scanLines (some label) text (rows.map (· ++ [0x0A]) ++ rest) =
      scanLines (some label) (text ++ rows.flatMap (· ++ [0x0A])) rest := by
  induction rows generalizing text with
  | nil => simp
  | cons row rows ih =>
    have hrow := h row List.mem_cons_self
    have hbegin := isPrefixOf_row head?_beginMark hrow
    have hend : endsSection label (row ++ [0x0A]) = false := by
      unfold endsSection
      rw [List.append_assoc]
      exact isPrefixOf_row (head?_endMark_append _) hrow
    simp only [List.map_cons, List.cons_append, scanLines, hbegin, hend, Bool.false_eq_true, if_false]
    rw [ih fun r hr => h r (List.mem_cons_of_mem row hr), List.flatMap_cons, List.append_assoc text]

theorem scanLines_begin {label : Bytes} (h : ∀ b ∈ label, labelByte b = true)
    (rest : List Bytes) :
    scanLines none [] ((beginMark ++ label ++ dashes ++ [0x0A]) :: rest) =
      scanLines (some label) [] rest := by
  have hbegin : beginMark.isPrefixOf (beginMark ++ label ++ dashes ++ [0x0A]) = true := by
    simp only [List.append_assoc]
    exact List.isPrefixOf_iff_prefix.mpr (List.prefix_append _ _)
  simp only [scanLines, hbegin, if_true, startLabel_begin h]

/-- A scan with sections before it. -/
def Scan.after (sections : List Section) (scan : Scan) : Scan :=
  { scan with sections := sections ++ scan.sections }

/-- At its end a section is decoded if its label is known. -/
theorem scanLines_end {text content : Bytes} (h : decodeBase64 text = .ok content) (label : Bytes)
    (rest : List Bytes) :
    scanLines (some label) text ((endMark ++ label ++ dashes ++ [0x0A]) :: rest) =
      (scanLines none [] rest).after ((Kind.ofLabel? label).map (⟨·, content⟩)).toList := by
  have hbegin : beginMark.isPrefixOf (endMark ++ label ++ dashes ++ [0x0A]) = false := by
    -- the two marks differ in their sixth byte
    rw [show endMark = [0x2D, 0x2D, 0x2D, 0x2D, 0x2D, 0x45] ++ endMark.drop 6 by decide,
      show beginMark = [0x2D, 0x2D, 0x2D, 0x2D, 0x2D, 0x42] ++ beginMark.drop 6 by decide]
    rfl
  have hend : endsSection label (endMark ++ label ++ dashes ++ [0x0A]) = true :=
    List.isPrefixOf_iff_prefix.mpr (List.prefix_append _ _)
  simp only [scanLines, hbegin, hend, Bool.false_eq_true, if_false, if_true, h]
  cases Kind.ofLabel? label <;> rfl

theorem scanLines_remark {line : Bytes} (h : ¬beginMark <+: line) (rest : List Bytes) :
    scanLines none [] ((line ++ [0x0A]) :: rest) = scanLines none [] rest := by
  have hbegin : ¬beginMark <+: line ++ [0x0A] := by
    rw [List.prefix_concat_iff]
    rintro (hwhole | hstarts)
    · have hmem : (0x0A : UInt8) ∈ beginMark := by
        rw [hwhole]
        simp
      exact absurd hmem (by decide)
    · exact h hstarts
  rw [scanLines, if_neg (by rwa [List.isPrefixOf_iff_prefix])]

/-- A part adds its own section, if it has one, whatever follows it. -/
theorem scanLines_part {part : Part} (h : part.Sound) (rest : List Bytes) :
    scanLines none [] (part.lines.map (· ++ [0x0A]) ++ rest) =
      (scanLines none [] rest).after part.section?.toList := by
  cases part with
  | remark line => exact scanLines_remark h.2 rest
  | block label content rows =>
    obtain ⟨hlabel, hrows⟩ := h
    have hdecoded := decodeBase64_rows hrows
    have hlines : (Part.block label content rows).lines.map (· ++ [0x0A]) ++ rest =
        (beginMark ++ Utf8.encode label ++ dashes ++ [0x0A]) :: (rows.map (· ++ [0x0A]) ++
          (endMark ++ Utf8.encode label ++ dashes ++ [0x0A]) :: rest) := by
      simp [Part.lines]
    rw [hlines, scanLines_begin (encode_label hlabel), scanLines_rows (labelByte_of_mem_row hrows), List.nil_append,
      scanLines_end hdecoded]
    rfl

theorem isLineEnd_of_all {line : Bytes} (h : line.all (!isLineEnd ·)) :
    ∀ b ∈ line, isLineEnd b = false := by
  simpa using h

theorem isLineEnd_of_mem_mark {mark label : Bytes} (hmark : mark.all (!isLineEnd ·))
    (hlabel : ∀ b ∈ label, labelByte b = true) :
    ∀ b ∈ mark ++ label ++ dashes, isLineEnd b = false := by
  have hdashes : dashes.all (!isLineEnd ·) := by decide
  intro b hb
  rcases List.mem_append.mp hb with hb | hb
  · rcases List.mem_append.mp hb with hb | hb
    · exact isLineEnd_of_all hmark b hb
    · exact isLineEnd_of_labelByte (hlabel b hb)
  · exact isLineEnd_of_all hdashes b hb

theorem isLineEnd_of_mem_lines {part : Part} (h : part.Sound) :
    ∀ line ∈ part.lines, ∀ b ∈ line, isLineEnd b = false := by
  intro line hline
  cases part with
  | remark text =>
    rw [List.eq_of_mem_singleton hline]
    exact isLineEnd_of_all h.1
  | block label content rows =>
    have hlabel := encode_label h.1
    rcases List.mem_append.mp hline with hline | hend
    · rcases List.mem_cons.mp hline with rfl | hrow
      · exact isLineEnd_of_mem_mark (by decide) hlabel
      · exact fun b hb => isLineEnd_of_labelByte (labelByte_of_mem_row h.2 line hrow b hb)
    · rw [List.eq_of_mem_singleton hend]
      exact isLineEnd_of_mem_mark (by decide) hlabel

/-- Over a file the scan finds the sections of its parts in their order, and no fault. -/
theorem scan_fileOf {parts : List Part} (h : ∀ part ∈ parts, part.Sound) :
    scan (fileOf parts) = ⟨parts.filterMap Part.section?, none⟩ := by
  have hends : ∀ line ∈ parts.flatMap Part.lines, ∀ b ∈ line, isLineEnd b = false := by
    intro line hline
    obtain ⟨part, hpart, hmem⟩ := List.mem_flatMap.mp hline
    exact isLineEnd_of_mem_lines (h part hpart) line hmem
  unfold scan fileOf
  rw [lines_flatMap hends]
  clear hends
  induction parts with
  | nil => rfl
  | cons part parts ih =>
    rw [List.flatMap_cons, List.map_append, scanLines_part (h part List.mem_cons_self),
      ih fun p hp => h p (List.mem_cons_of_mem part hp), List.filterMap_cons]
    cases part.section? <;> rfl

/-! ## What is found -/

/-- The labels of private keys. -/
def keyLabels : List String :=
  ["PRIVATE KEY", "RSA PRIVATE KEY", "EC PRIVATE KEY"]

/-- Whether a label stands for a kind of some sort. -/
def standsFor (q : Kind → Bool) (label : String) : Bool :=
  Kind.labels.any fun entry => entry.1 == label && q entry.2

theorem standsFor_certificate (label : String) :
    standsFor (· == .certificate) label = (label == "CERTIFICATE") := by
  rw [Bool.eq_iff_iff]
  simp [standsFor, Kind.labels]
  exact eq_comm

theorem standsFor_isPrivateKey (label : String) :
    standsFor Kind.isPrivateKey label = keyLabels.contains label := by
  rw [Bool.eq_iff_iff]
  simp [standsFor, Kind.labels, keyLabels, Kind.isPrivateKey]
  tauto

theorem any_section? (part : Part) (q : Kind → Bool) :
    part.section?.any (q ·.kind) = part.label?.any (standsFor q) := by
  cases part with
  | remark line => rfl
  | block label content rows =>
    rw [Bool.eq_iff_iff]
    simp only [Part.section?, Part.label?, standsFor, Option.any_map, Option.any_eq_true,
      List.any_eq_true, Option.some.injEq, exists_eq_left', Kind.ofLabel?_encode, Bool.and_eq_true,
      beq_iff_eq]
    constructor
    · rintro ⟨kind, hkind, hq⟩
      exact ⟨(label, kind), hkind, rfl, hq⟩
    · rintro ⟨⟨name, kind⟩, hkind, rfl, hq⟩
      exact ⟨kind, hkind, hq⟩

variable {parts others : List Part}

/-- As many sections of some sort are found as there are blocks whose labels stand for it. -/
theorem countP_sections (parts : List Part) (q : Kind → Bool) :
    (parts.filterMap Part.section?).countP (q ·.kind) = (labels parts).countP (standsFor q) := by
  have hany : ∀ {α : Type} (p : α → Bool) (o : Option α), (o.map p).getD false = o.any p :=
    fun p o => by cases o <;> rfl
  rw [labels, List.countP_filterMap, List.countP_filterMap]
  refine List.countP_congr fun part _ => ?_
  rw [hany, hany, any_section?]

theorem countCertificates_fileOf (h : ∀ part ∈ parts, part.Sound) (name : String) :
    countCertificates (fileOf parts) name = .ok ((labels parts).count "CERTIFICATE") := by
  have hcount : ((parts.filterMap Part.section?).filter (·.kind == .certificate)).length =
      (labels parts).count "CERTIFICATE" := by
    rw [← List.countP_eq_length_filter, countP_sections parts (· == .certificate)]
    exact List.countP_congr fun label _ => by rw [standsFor_certificate]
  simp only [countCertificates, certificates, scan_fileOf h, List.length_map, hcount]

theorem hasPrivateKey_fileOf (h : ∀ part ∈ parts, part.Sound) (name : String) :
    hasPrivateKey (fileOf parts) name =
      .ok (decide (∃ label ∈ labels parts, label ∈ keyLabels)) := by
  have hany : (parts.filterMap Part.section?).any (·.kind.isPrivateKey) =
      decide (∃ label ∈ labels parts, label ∈ keyLabels) := by
    rw [Bool.eq_iff_iff, List.any_eq_true, ← List.countP_pos_iff, countP_sections,
      List.countP_pos_iff, decide_eq_true_eq]
    simp only [standsFor_isPrivateKey, List.contains_iff_mem]
  simp only [hasPrivateKey, scan_fileOf h, hany]
  cases decide (∃ label ∈ labels parts, label ∈ keyLabels) <;> rfl

/-- What blocks a file has decides, whatever text stands around them and wherever their base64 text
is broken. -/
theorem blocks_recognised (h : ∀ part ∈ parts, part.Sound) (hothers : ∀ part ∈ others, part.Sound)
    (name otherName : String) :
    countCertificates (fileOf parts) name = .ok ((labels parts).count "CERTIFICATE") ∧
    hasPrivateKey (fileOf parts) name = .ok (decide (∃ label ∈ labels parts, label ∈ keyLabels)) ∧
    validatePair (fileOf parts) name (fileOf others) otherName =
      if "CERTIFICATE" ∉ labels parts then .error (.undecodable name .noCertificates)
      else if ∀ label ∈ labels others, label ∉ keyLabels then
        .error (.undecodable otherName .noPrivateKey)
      else .ok () := by
  have hcount := countCertificates_fileOf h name
  refine ⟨hcount, hasPrivateKey_fileOf h name, ?_⟩
  unfold validatePair
  rw [hcount, hasPrivateKey_fileOf hothers otherName]
  simp only [bind, Except.bind, List.count_eq_zero]
  by_cases hcert : "CERTIFICATE" ∉ labels parts
  · rw [if_pos hcert, if_pos hcert]
    rfl
  · rw [if_neg hcert, if_neg hcert]
    by_cases hkey : ∀ label ∈ labels others, label ∉ keyLabels
    · have hnone : ¬∃ label ∈ labels others, label ∈ keyLabels := by simpa using hkey
      rw [if_pos hkey, decide_eq_false hnone]
      rfl
    · have hsome : ∃ label ∈ labels others, label ∈ keyLabels := by simpa using hkey
      rw [if_neg hkey, decide_eq_true hsome]
      rfl

/-- Two certificates in rows of different lengths, with text between them, and a key after a block
of a label that is not known. -/
def chain : List Part :=
  [.remark (Utf8.encode "subject=/CN=kong"),
    .block "CERTIFICATE" [0x30, 0x03, 0x02] [Utf8.encode "MA", Utf8.encode "MC"],
    .remark (Utf8.encode "-----END CERTIFICATE-----"),
    .block "CERTIFICATE" [0x30] [Utf8.encode "MA=", Utf8.encode "="],
    .block "EC PARAMETERS" [] [],
    .block "EC PRIVATE KEY" [0x30, 0x01] [Utf8.encode "MAE="]]

theorem blocks_recognised_chain :
    (∀ part ∈ chain, part.Sound) ∧
    countCertificates (fileOf chain) "kong.crt" = .ok 2 ∧
    hasPrivateKey (fileOf chain) "kong.crt" = .ok true ∧
    validatePair (fileOf chain) "kong.crt" (fileOf (chain.take 4)) "kong.key" =
      .error (.undecodable "kong.key" .noPrivateKey) := by
  have hsound : ∀ part ∈ chain, part.Sound := by decide
  have hfirst : ∀ part ∈ chain.take 4, part.Sound :=
    fun part hpart => hsound part (List.mem_of_mem_take hpart)
  obtain ⟨hcount, hkey, hpair⟩ := blocks_recognised hsound hfirst "kong.crt" "kong.key"
  exact ⟨hsound, hcount, hkey, hpair⟩

end GatewayProvisioning.Pem
