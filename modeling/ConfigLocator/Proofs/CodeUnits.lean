import ConfigLocator.Proofs.LexicalClasses
import ConfigLocator.Text.Encoding

/-!
# Characters beyond the basic plane

A code has four digits, so that a character beyond U+FFFF is written with two of them, those of its
code units in UTF-16. Each code is read on its own: where a character was written with two of them,
the two units are read and not the character (`Properties.read_code_units`), and no other text can do
better, since a number of four digits is below U+10000 (`Numeral.read?_lt`). Nothing is lost by it; the
units join to what was written (`Text.joinUnits?_toUnits`).
-/

namespace ConfigLocator

/-! ## Code units -/

namespace Text

/-- The code units of a character in UTF-16. -/
def codeUnits (c : Nat) : List Nat :=
  if c < 0x10000 then [c] else [0xD800 + (c - 0x10000) / 0x400, 0xDC00 + (c - 0x10000) % 0x400]

def toUnits (t : Text) : List Nat := t.flatMap codeUnits

/-- All characters are scalar values. -/
def IsScalar (t : Text) : Prop := ∀ c ∈ t, c.isValidChar

/-- All characters have a code of four digits. -/
def InBasicPlane (t : Text) : Prop := ∀ c ∈ t, c < 0x10000

variable {t : Text} {c : Nat}

theorem codeUnits_of_lt (h : c < 0x10000) : codeUnits c = [c] := if_pos h

theorem codeUnits_of_le (h : 0x10000 ≤ c) :
    codeUnits c = [0xD800 + (c - 0x10000) / 0x400, 0xDC00 + (c - 0x10000) % 0x400] :=
  if_neg (Nat.not_lt.mpr h)

theorem codeUnits_lt (h : c.isValidChar) : ∀ u ∈ codeUnits c, u < 0x10000 := by
  have hlt : c < 0x110000 := h.elim (fun h => by omega) (·.2)
  intro u hu
  rw [codeUnits] at hu
  split at hu <;> simp only [List.mem_cons, List.not_mem_nil, or_false] at hu <;> omega

/-- A unit is a half of a pair just where a character takes two. -/
theorem isSurrogate_of_mem_codeUnits (h : c.isValidChar) {u : Nat} (hu : u ∈ codeUnits c) :
    isSurrogate u = true ↔ 0x10000 ≤ c := by
  have hlt : c < 0x110000 := h.elim (fun h => by omega) (·.2)
  rw [isSurrogate, Bool.and_eq_true, decide_eq_true_iff, decide_eq_true_iff]
  rw [codeUnits] at hu
  split at hu
  · obtain rfl := List.mem_singleton.mp hu
    rcases h with h | h <;> omega
  · simp only [List.mem_cons, List.not_mem_nil, or_false] at hu
    omega

theorem codeUnits_ne_nil (c : Nat) : codeUnits c ≠ [] := by
  rw [codeUnits]
  split <;> simp

theorem toUnits_eq_self_iff (h : t.IsScalar) : t.toUnits = t ↔ t.InBasicPlane := by
  constructor
  · intro heq c hc
    rw [← heq] at hc
    obtain ⟨d, hd, hc⟩ := List.mem_flatMap.mp hc
    exact codeUnits_lt (h d hd) c hc
  · intro hbasic
    rw [toUnits, List.flatMap_congr fun c hc => codeUnits_of_lt (hbasic c hc),
      List.flatMap_singleton']

theorem exists_isSurrogate_iff (h : t.IsScalar) :
    (∃ u ∈ t.toUnits, isSurrogate u = true) ↔ ¬ t.InBasicPlane := by
  constructor
  · rintro ⟨u, hu, hsurrogate⟩ hbasic
    obtain ⟨c, hc, hunit⟩ := List.mem_flatMap.mp hu
    have hbeyond := (isSurrogate_of_mem_codeUnits (h c hc) hunit).mp hsurrogate
    exact absurd (hbasic c hc) (Nat.not_lt.mpr hbeyond)
  · intro hbeyond
    obtain ⟨c, hc, hle⟩ : ∃ c ∈ t, 0x10000 ≤ c := by simpa [InBasicPlane] using hbeyond
    obtain ⟨u, hu⟩ := List.exists_mem_of_ne_nil _ (codeUnits_ne_nil c)
    exact ⟨u, List.mem_flatMap.mpr ⟨c, hc, hu⟩, (isSurrogate_of_mem_codeUnits (h c hc) hu).mpr hle⟩

theorem joinUnits?_cons {u : Nat} (h : isSurrogate u = false) (rest : List Nat) :
    joinUnits? (u :: rest) = (joinUnits? rest).map (u :: ·) := by
  cases rest with
  | nil => simp [joinUnits?, h]
  | cons v rest =>
      rw [joinUnits?, if_neg (by simp [h])]
      cases joinUnits? (v :: rest) <;> rfl

/-- The units of a character are joined to it again. -/
theorem joinUnits?_append (h : c.isValidChar) (rest : List Nat) :
    joinUnits? (codeUnits c ++ rest) = (joinUnits? rest).map (c :: ·) := by
  have hunit : ∀ u ∈ codeUnits c, (isSurrogate u = true ↔ 0x10000 ≤ c) :=
    fun u hu => isSurrogate_of_mem_codeUnits h hu
  have hlt : c < 0x110000 := h.elim (fun h => by omega) (·.2)
  rcases Nat.lt_or_ge c 0x10000 with hbasic | hbeyond
  · rw [codeUnits_of_lt hbasic] at hunit ⊢
    have hsingle : isSurrogate c = false := by
      rw [← Bool.not_eq_true, hunit c (List.mem_singleton_self c)]
      exact Nat.not_le.mpr hbasic
    exact joinUnits?_cons hsingle rest
  · rw [codeUnits_of_le hbeyond] at hunit ⊢
    have hhigh : isSurrogate (0xD800 + (c - 0x10000) / 0x400) = true :=
      (hunit _ (List.mem_cons_self ..)).mpr hbeyond
    have hpair : (decide (0xD800 + (c - 0x10000) / 0x400 < 0xDC00) &&
        decide (0xDC00 ≤ 0xDC00 + (c - 0x10000) % 0x400) &&
        decide (0xDC00 + (c - 0x10000) % 0x400 < 0xE000)) = true := by
      simp only [Bool.and_eq_true, decide_eq_true_iff]
      omega
    have hjoined : 0x10000 + (0xD800 + (c - 0x10000) / 0x400 - 0xD800) * 0x400 +
        (0xDC00 + (c - 0x10000) % 0x400 - 0xDC00) = c := by omega
    rw [List.cons_append, List.singleton_append, joinUnits?, if_pos hhigh, if_pos hpair, hjoined]
    cases joinUnits? rest <;> rfl

theorem joinUnits?_toUnits (h : t.IsScalar) : joinUnits? t.toUnits = some t := by
  induction t with
  | nil => rfl
  | cons c t ih =>
      obtain ⟨hc, ht⟩ := List.forall_mem_cons.mp h
      rw [toUnits, List.flatMap_cons, joinUnits?_append hc, ← toUnits, ih ht]
      rfl

end Text

/-! ## Four digits -/

namespace Numeral

variable {base value n : Nat} {t : Text}

/-- As many digits as these make no larger number, underscores or not. -/
theorem readDigits_lt (hbase : 0 < base) {gap : Bool} (h : readDigits base value gap t = some n) :
    n < (value + 1) * Nat.pow base t.length := by
  induction t generalizing value gap with
  | nil =>
      rw [readDigits] at h
      split at h
      · cases h
      · obtain rfl := Option.some.inj h
        exact Nat.lt_of_lt_of_eq (Nat.lt_succ_self value) (Nat.mul_one (value + 1)).symm
  | cons c t ih =>
      have hpow : Nat.pow base (c :: t).length = Nat.pow base t.length * base := rfl
      rw [readDigits] at h
      rw [hpow]
      split at h
      · split at h
        · cases h
        · -- An underscore is no digit: the number stays while the bound grows.
          exact (ih h).trans_le (Nat.mul_le_mul_left _ (Nat.le_mul_of_pos_right _ hbase))
      · split at h
        · next d _ =>
          split at h
          · next hd =>
            have hdigit : value * base + d + 1 ≤ (value + 1) * base := by
              rw [Nat.add_mul]
              omega
            calc n < (value * base + d + 1) * Nat.pow base t.length := ih h
              _ ≤ (value + 1) * base * Nat.pow base t.length := Nat.mul_le_mul_right _ hdigit
              _ = (value + 1) * (Nat.pow base t.length * base) := by
                rw [Nat.mul_assoc, Nat.mul_comm base]
          · cases h
        · cases h

theorem length_toAscii? {ascii : Text} (h : toAscii? t = some ascii) : ascii.length = t.length := by
  induction t generalizing ascii with
  | nil =>
      cases h
      rfl
  | cons c t ih =>
      rw [toAscii?, List.mapM_cons] at h
      obtain ⟨d, -, h⟩ := Option.bind_eq_some_iff.mp h
      obtain ⟨rest, hrest, h⟩ := Option.bind_eq_some_iff.mp h
      obtain rfl := Option.some.inj h
      rw [List.length_cons, List.length_cons, ih hrest]

theorem length_trim_le (p : Nat → Bool) (t : Text) : (Text.trim p t).length ≤ t.length := by
  rw [Text.trim, Text.trimEnd, List.length_reverse]
  refine (List.length_dropWhile_le p _).trans ?_
  rw [List.length_reverse]
  exact List.length_dropWhile_le p t

theorem length_sign_le (t : Text) : (sign t).2.length ≤ t.length := by
  fun_cases sign t <;> simp [*]

theorem length_dropBaseMark_le (base : Nat) (t : Text) :
    (dropBaseMark base t).length ≤ t.length := by
  fun_cases dropBaseMark base t with
  | case1 a b rest _ =>
      have hdrop : (Text.dropLeading rest "_").length ≤ rest.length := by
        rw [Text.dropLeading]
        cases hbehind : Text.dropLeading? "_" rest with
        | none => exact le_rfl
        | some behind =>
            have hrest := congrArg List.length (Text.eq_append_of_dropLeading? hbehind)
            rw [List.length_append] at hrest
            exact hrest ▸ Nat.le_add_left ..
      exact hdrop.trans (Nat.le_add_right _ 2)
  | case2 => exact le_rfl
  | case3 => exact le_rfl

/-- As few characters as these are read as no larger number, whatever white space and marks are among
them. -/
theorem read?_lt (hbase : 0 < base) (h : read? base t = some (n : Int)) :
    n < Nat.pow base t.length := by
  obtain ⟨ascii, hascii, h⟩ := Option.bind_eq_some_iff.mp h
  obtain ⟨value, hvalue, h⟩ := Option.bind_eq_some_iff.mp h
  have hn : n ≤ value := by
    have hsigned := Option.some.inj h
    split at hsigned <;> omega
  have hlength : (dropBaseMark base (sign (Text.trim isAsciiBlank ascii)).2).length ≤ t.length :=
    calc _ ≤ (sign (Text.trim isAsciiBlank ascii)).2.length := length_dropBaseMark_le base _
      _ ≤ (Text.trim isAsciiBlank ascii).length := length_sign_le _
      _ ≤ ascii.length := length_trim_le _ _
      _ = t.length := length_toAscii? hascii
  have hdigits := readDigits_lt hbase hvalue
  rw [Nat.zero_add, Nat.one_mul] at hdigits
  exact hn.trans_lt (hdigits.trans_le (Nat.pow_le_pow_right hbase hlength))

end Numeral

namespace Properties

variable {raw out key value t : Text}

/-! ## What can be written in the basic plane -/

theorem characterOf_lt {code : Text} {c : Nat} (hlength : code.length = 4)
    (h : characterOf code = .ok c) : c < 0x10000 := by
  have hlt := Numeral.read?_lt (by decide) (characterOf_eq_ok_iff.mp h)
  rwa [hlength] at hlt

theorem escaped_lt {c : Nat} (h : c < 0x10000) : escaped c < 0x10000 := by
  unfold escaped
  split_ifs <;> first | exact h | decide

theorem Decodes.inBasicPlane (h : Decodes raw out) (hraw : raw.InBasicPlane) :
    out.InBasicPlane := by
  have hcons : ∀ {c : Nat} {s : Text}, Text.InBasicPlane (c :: s) ↔ c < 0x10000 ∧ s.InBasicPlane :=
    List.forall_mem_cons
  induction h with
  | nil => exact hraw
  | last => exact hraw
  | plain _ _ ih =>
      obtain ⟨hc, hrest⟩ := hcons.mp hraw
      exact hcons.mpr ⟨hc, ih hrest⟩
  | escape _ _ ih =>
      obtain ⟨hc, hrest⟩ := hcons.mp (hcons.mp hraw).2
      exact hcons.mpr ⟨escaped_lt hc, ih hrest⟩
  | short _ _ ih =>
      obtain ⟨hc, hrest⟩ := hcons.mp (hcons.mp hraw).2
      exact hcons.mpr ⟨hc, ih hrest⟩
  | code hlength hcode _ ih =>
      have hrest := (List.forall_mem_append.mp (hcons.mp (hcons.mp hraw).2).2).2
      exact hcons.mpr ⟨characterOf_lt hlength hcode, ih hrest⟩

theorem Divides.subset {line : Text} (h : Divides line key value) : key ⊆ line ∧ value ⊆ line := by
  cases h with
  | whole => exact ⟨List.Subset.refl key, List.nil_subset key⟩
  | sign => constructor <;> intro c hc <;> simp [hc]
  | gap => constructor <;> intro c hc <;> simp [hc]

theorem subset_of_mem_lines {line : Text} (h : line ∈ lines t) : line ⊆ t := by
  fun_induction lines t generalizing line with
  | case1 => cases h
  | case2 c rest _ ih => exact List.subset_cons_of_subset c (ih h)
  | case3 c rest _ _ ih =>
      rcases List.mem_cons.mp h with rfl | h
      · exact List.nil_subset _
      · exact List.subset_cons_of_subset c (ih h)
  | case4 c rest _ _ ih =>
      cases hlines : lines rest with
      | nil =>
          rw [hlines] at h
          rw [List.mem_singleton.mp h]
          exact List.cons_subset_cons c (List.nil_subset rest)
      | cons first more =>
          rw [hlines] at h
          rcases List.mem_cons.mp h with rfl | h
          · exact List.cons_subset_cons c (ih (by simp [hlines]))
          · exact List.subset_cons_of_subset c (ih (by simp [hlines, h]))

theorem subset_of_mem_logicalLines {line : Text} (h : line ∈ logicalLines t) : line ⊆ t := by
  intro c hc
  have hentries : Classes.unicode.Entries (lines t) (logicalLines t) :=
    (Classes.entries_iff fun _ _ => rfl).mpr rfl
  obtain ⟨own, hown, hc⟩ := hentries.exists_mem h hc
  exact subset_of_mem_lines hown hc

/-- No escape leads out of the basic plane. -/
theorem inBasicPlane_of_read {m : PropertyMap} (ht : t.InBasicPlane) (h : read t = .ok m)
    (hfind : m.find? key = some (.text value)) : key.InBasicPlane ∧ value.InBasicPlane := by
  obtain ⟨entries, htexts, hcollects⟩ := read_eq_ok_iff_texts.mp h
  rw [hcollects.find?] at hfind
  obtain ⟨value', hlookup, ⟨⟩⟩ := Option.map_eq_some_iff.mp hfind
  obtain ⟨later, before, hentries, -⟩ := List.lookup_eq_some_iff.mp hlookup
  have hmem : (key, value) ∈ entries := List.mem_reverse.mp (by simp [hentries])
  obtain ⟨line, hline, hkey, hvalue⟩ := exists_of_mem_results htexts hmem
  have hsubset := (divides_iff.mpr (Eq.refl (splitEntry line))).subset
  have hbasic : ∀ {raw : Text}, raw ⊆ line → raw.InBasicPlane :=
    fun hraw c hc => ht c (subset_of_mem_logicalLines hline (hraw hc))
  exact ⟨(decodes_iff.mpr hkey).inBasicPlane (hbasic hsubset.1),
    (decodes_iff.mpr hvalue).inBasicPlane (hbasic hsubset.2)⟩

/-! ## Characters written by their code units -/

/-- What a character is written as: printable ASCII characters as they are, with a backslash where
they need one, and the others by the codes of their units. -/
inductive Spelled (c : Nat) : Text → Prop
  | plain (h : IsPlain c) : Spelled c [c]
  | marked (h : c ∈ marks) : Spelled c [backslash, c]
  | units {codes : List Text} (hc : ¬ (0x20 ≤ c ∧ c ≤ 0x7E))
      (hcodes : List.Forall₂ HexCode codes (Text.codeUnits c)) :
      Spelled c (codes.flatMap fun code => backslash :: 'u' :: code)

inductive Spells : (t written : Text) → Prop
  | nil : Spells [] []
  | cons {c : Nat} {t w written : Text} (hc : Spelled c w) (ht : Spells t written) :
      Spells (c :: t) (w ++ written)

theorem exists_hexCode {u : Nat} (h : u < 0x10000) : ∃ code, HexCode code u := by
  obtain ⟨_, _, _, _, _, _, _, _, ha, hb, hc, hd, rfl⟩ := HexDigit.exists_four_of_lt h
  exact ⟨_, .intro ha hb hc hd⟩

theorem HexCode.written {code : Text} {u : Nat} (h : HexCode code u) :
    Written u (backslash :: 'u' :: code) := by
  obtain ⟨ha, hb, hc, hd⟩ := h
  exact .code ha hb hc hd

theorem exists_codes {units : List Nat} (h : ∀ u ∈ units, u < 0x10000) :
    ∃ codes, List.Forall₂ HexCode codes units := by
  induction units with
  | nil => exact ⟨[], .nil⟩
  | cons u units ih =>
      obtain ⟨hu, hunits⟩ := List.forall_mem_cons.mp h
      obtain ⟨code, hcode⟩ := exists_hexCode hu
      obtain ⟨codes, hcodes⟩ := ih hunits
      exact ⟨code :: codes, .cons hcode hcodes⟩

theorem exists_spelled {c : Nat} (h : c.isValidChar) : ∃ w, Spelled c w := by
  by_cases hprintable : 0x20 ≤ c ∧ c ≤ 0x7E
  · by_cases hmark : c ∈ marks
    · exact ⟨_, .marked hmark⟩
    · have hspace : c ≠ 0x20 := fun hc => hmark (hc ▸ by decide)
      exact ⟨_, .plain ⟨by omega, hprintable.2, hmark⟩⟩
  · obtain ⟨codes, hcodes⟩ := exists_codes (Text.codeUnits_lt h)
    exact ⟨_, .units hprintable hcodes⟩

theorem exists_spells (h : t.IsScalar) : ∃ written, Spells t written := by
  induction t with
  | nil => exact ⟨[], .nil⟩
  | cons c t ih =>
      obtain ⟨hc, ht⟩ := List.forall_mem_cons.mp h
      obtain ⟨w, hw⟩ := exists_spelled hc
      obtain ⟨written, hwritten⟩ := ih ht
      exact ⟨w ++ written, .cons hw hwritten⟩

/-- Each code is a way to write its unit. -/
theorem Spelled.exists_tokens {c : Nat} {w : Text} (h : Spelled c w) :
    ∃ tokens, List.Forall₂ Written (Text.codeUnits c) tokens ∧ w = tokens.flatten := by
  have hbasic : c ≤ 0x7E → Text.codeUnits c = [c] := fun hc => Text.codeUnits_of_lt (by omega)
  cases h with
  | plain h =>
      rw [hbasic h.2.1]
      exact ⟨[[c]], .cons (.plain h) .nil, rfl⟩
  | marked h =>
      rw [hbasic (marks_printable c h).2]
      exact ⟨[[backslash, c]], .cons (.marked h) .nil, rfl⟩
  | @units codes _ hcodes =>
      refine ⟨codes.map fun code => backslash :: 'u' :: code, ?_, List.flatMap_def⟩
      rw [List.forall₂_map_right_iff]
      exact hcodes.flip.imp fun _ _ h => h.written

theorem Spells.exists_tokens {written : Text} (h : Spells t written) :
    ∃ tokens, List.Forall₂ Written t.toUnits tokens ∧ written = tokens.flatten := by
  induction h with
  | nil => exact ⟨[], .nil, rfl⟩
  | cons hc _ ih =>
      obtain ⟨first, hfirst, rfl⟩ := hc.exists_tokens
      obtain ⟨rest, hrest, rfl⟩ := ih
      exact ⟨first ++ rest, List.rel_append hfirst hrest, by rw [List.flatten_append]⟩

/-! ## Reading them -/

section Entry

variable {keyText valueText separator : Text}

theorem Separator.toUnits (h : Separator key separator) : Separator key.toUnits separator := by
  cases h with
  | sign hbefore hc hafter => exact .sign hbefore hc hafter
  | spaces hgap hne hkey =>
      refine .spaces hgap hne ?_
      obtain ⟨c, t, rfl⟩ := List.exists_cons_of_ne_nil hkey
      simp [Text.toUnits, Text.codeUnits_ne_nil]

theorem read_spelled (hkey : Spells key keyText) (hvalue : Spells value valueText)
    (hseparator : Separator key separator) :
    read (keyText ++ (separator ++ valueText)) = .ok [(key.toUnits, .text value.toUnits)] := by
  obtain ⟨keyTokens, hkeyTokens, rfl⟩ := hkey.exists_tokens
  obtain ⟨valueTokens, hvalueTokens, rfl⟩ := hvalue.exists_tokens
  have hentry := EntryText.intro hkeyTokens hseparator.toUnits hvalueTokens (folded_flatten _)
  have hnone : Indentation [] := by decide
  obtain ⟨line, hline, hread⟩ := hentry.exists_line hnone closes_nil (by simp)
  rw [List.nil_append, List.append_nil, flatten_entryTokens] at hline
  exact read_of_line hline (readEntry_eq_ok_iff.mp hread)

end Entry

theorem Spells.inBasicPlane {written : Text} (h : Spells t written) : written.InBasicPlane := by
  obtain ⟨tokens, htokens, rfl⟩ := h.exists_tokens
  intro c hc
  obtain ⟨w, hw, hcw⟩ := List.mem_flatten.mp hc
  obtain ⟨u, -, hwritten⟩ := exists_of_mem_results htokens hw
  exact (hwritten.printable c hcw).2.trans_lt (by decide)

/-- Key and value are read as the code units that they were written by: as themselves only within the
basic plane, and with halves of pairs beyond it, which nothing joins. No other text with its characters
in the basic plane is read as a key and a value beyond it. -/
theorem read_code_units (key value : Text) (hkey : key.IsScalar) (hvalue : value.IsScalar) :
    (∃ keyText, Spells key keyText) ∧ (∃ valueText, Spells value valueText) ∧
      (∀ keyText valueText separator, Spells key keyText → Spells value valueText →
        Separator key separator →
        read (keyText ++ (separator ++ valueText)) = .ok [(key.toUnits, .text value.toUnits)] ∧
          (read (keyText ++ (separator ++ valueText)) = .ok [(key, .text value)] ↔
            key.InBasicPlane ∧ value.InBasicPlane)) ∧
      ((∃ u ∈ key.toUnits ++ value.toUnits, Text.isSurrogate u = true) ↔
        ¬ (key.InBasicPlane ∧ value.InBasicPlane)) ∧
      Text.joinUnits? key.toUnits = some key ∧ Text.joinUnits? value.toUnits = some value ∧
      ((∃ t : Text, t.InBasicPlane ∧ read t = .ok [(key, .text value)]) ↔
        key.InBasicPlane ∧ value.InBasicPlane) := by
  obtain ⟨keyText, hkeyText⟩ := exists_spells hkey
  obtain ⟨valueText, hvalueText⟩ := exists_spells hvalue
  have hself : [(key.toUnits, Value.text value.toUnits)] = [(key, .text value)] ↔
      key.InBasicPlane ∧ value.InBasicPlane := by
    simp [Text.toUnits_eq_self_iff hkey, Text.toUnits_eq_self_iff hvalue]
  refine ⟨⟨keyText, hkeyText⟩, ⟨valueText, hvalueText⟩, ?_, ?_,
    Text.joinUnits?_toUnits hkey, Text.joinUnits?_toUnits hvalue, ?_, ?_⟩
  · intro keyText valueText separator hkeyText hvalueText hseparator
    have hread := read_spelled hkeyText hvalueText hseparator
    rw [hread]
    exact ⟨rfl, by rw [Except.ok.injEq, hself]⟩
  · rw [not_and_or, ← Text.exists_isSurrogate_iff hkey, ← Text.exists_isSurrogate_iff hvalue]
    simp only [List.mem_append, or_and_right, exists_or]
  · rintro ⟨t, ht, hread⟩
    exact inBasicPlane_of_read ht hread (by simp [PropertyMap.find?])
  · intro hbasic
    have hread := read_spelled hkeyText hvalueText (separator_equals key)
    rw [hself.mpr hbasic] at hread
    refine ⟨_, ?_, hread⟩
    have hequals : Text.InBasicPlane ['='] := by simp [Text.InBasicPlane]
    exact List.forall_mem_append.mpr ⟨hkeyText.inBasicPlane,
      List.forall_mem_append.mpr ⟨hequals, hvalueText.inBasicPlane⟩⟩

/-- The halves of one pair, in the key and in the value. -/
theorem read_code_units_pair :
    Text.IsScalar "😀" ∧ Spells "😀" "\\ud83d\\ude00" ∧
      read "\\ud83d\\ude00=\\ud83d\\ude00" = .ok [([0xD83D, 0xDE00], .text [0xD83D, 0xDE00])] ∧
      read "\\ud83d\\ude00=\\ud83d\\ude00" ≠ .ok [("😀", .text "😀")] := by
  have hscalar : Text.IsScalar "😀" := by unfold Text.IsScalar; decide
  have hthree : HexDigit 3 '3' := by decide
  have height : HexDigit 8 '8' := by decide
  have hd : HexDigit 13 'd' := by decide
  have hzero : HexDigit 0 '0' := by decide
  have he : HexDigit 14 'e' := by decide
  have hcodes : List.Forall₂ HexCode ["d83d", "de00"] (Text.codeUnits 0x1F600) :=
    .cons (.intro hd height hthree hd) (.cons (.intro hd he hzero hzero) .nil)
  have hspells : Spells "😀" "\\ud83d\\ude00" := .cons (.units (by decide) hcodes) .nil
  obtain ⟨-, -, hread, -⟩ := read_code_units _ _ hscalar hscalar
  obtain ⟨hunits, hself⟩ := hread _ _ _ hspells hspells (separator_equals _)
  refine ⟨hscalar, hspells, hunits, fun hsame => ?_⟩
  have hbasic := (hself.mp hsame).1 0x1F600 (by decide)
  exact absurd hbasic (by decide)

end Properties

end ConfigLocator
