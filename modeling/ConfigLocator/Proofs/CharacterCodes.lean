import ConfigLocator.Proofs.EntryGrammar

/-!
# Character codes

Behind `\u` come four characters that are read as a number of base 16, if there are four. Where they
are digits of base 16, the entry has the character with that code in their place, and a text with no
other codes can be read; where they are no number, or a negative one, the text cannot be read; and
where there are fewer, `u` stands for itself (`Properties.character_codes`).

What unescaping makes of a text falls apart at each escape (`Properties.splits_append`): no code
that is a number reaches over a backslash (`Numeral.backslash_not_mem`).
-/

namespace ConfigLocator

/-! ## What is no part of a number -/

namespace Numeral

theorem mem_of_toAscii? {t ascii : Text} {c : Nat} (h : toAscii? t = some ascii) (hc : c ∈ t)
    (hlt : c < 0x7F) : c ∈ ascii := by
  induction t generalizing ascii with
  | nil => cases hc
  | cons d t ih =>
      rw [toAscii?, List.mapM_cons] at h
      obtain ⟨e, he, h⟩ := Option.bind_eq_some_iff.mp h
      obtain ⟨rest, hrest, h⟩ := Option.bind_eq_some_iff.mp h
      obtain rfl := Option.some.inj h
      rcases List.mem_cons.mp hc with rfl | hc
      · rw [if_pos hlt] at he
        rw [Option.some.inj he]
        exact List.mem_cons_self ..
      · exact List.mem_cons_of_mem e (ih hrest hc)

theorem mem_trim {p : Nat → Bool} {t : Text} {c : Nat} (hp : p c = false) (hc : c ∈ t) :
    c ∈ Text.trim p t := by
  have hdrop : ∀ s : Text, c ∈ s → c ∈ s.dropWhile p := by
    intro s hs
    rw [← List.takeWhile_append_dropWhile (p := p) (l := s), List.mem_append] at hs
    refine hs.resolve_left fun htake => ?_
    rw [List.mem_takeWhile_imp htake] at hp
    cases hp
  rw [Text.trim, Text.trimEnd, List.mem_reverse]
  exact hdrop _ (List.mem_reverse.mpr (hdrop t hc))

theorem mem_sign {t : Text} {c : Nat} (hminus : c ≠ '-') (hplus : c ≠ '+') (hc : c ∈ t) :
    c ∈ (sign t).2 := by
  cases t with
  | nil => cases hc
  | cons d t =>
      rw [sign]
      split
      · next hd => exact (List.mem_cons.mp hc).resolve_left fun h => hminus (h.trans hd)
      · split
        · next hd => exact (List.mem_cons.mp hc).resolve_left fun h => hplus (h.trans hd)
        · exact hc

theorem digitValue?_of_mem_readDigits {base value n c : Nat} {gap : Bool} {t : Text}
    (h : readDigits base value gap t = some n) (hc : c ∈ t) :
    c = '_' ∨ ∃ d, digitValue? c = some d := by
  induction t generalizing value gap with
  | nil => cases hc
  | cons e t ih =>
      have hrest : ∀ {value gap}, readDigits base value gap t = some n → c ∈ t →
          c = '_' ∨ ∃ d, digitValue? c = some d := fun h hc => ih h hc
      rw [readDigits] at h
      split at h
      · next he =>
        rcases List.mem_cons.mp hc with rfl | hc
        · exact Or.inl he
        · split at h
          · cases h
          · exact hrest h hc
      · split at h
        · next d hd =>
          rcases List.mem_cons.mp hc with rfl | hc
          · exact Or.inr ⟨d, hd⟩
          · split at h
            · exact hrest h hc
            · cases h
        · cases h

theorem mem_dropBaseMark {base c : Nat} {t : Text} (hzero : c ≠ '0') (hmark : c ∉ baseMarks base)
    (hunder : c ≠ '_') (hc : c ∈ t) : c ∈ dropBaseMark base t := by
  match t with
  | [] => cases hc
  | [_] => exact hc
  | a :: b :: rest =>
      rw [dropBaseMark]
      split
      · next hmarked =>
        obtain ⟨ha, hb⟩ := hmarked
        have hne : c ≠ a ∧ c ≠ b := by
          refine ⟨fun h => hzero (h.trans ha), ?_⟩
          rintro rfl
          exact hmark (List.contains_iff_mem.mp hb)
        have hrest : c ∈ rest := by simpa [hne] using hc
        rw [Text.dropLeading]
        cases hdrop : Text.dropLeading? "_" rest with
        | none => exact hrest
        | some behind =>
            rw [Text.eq_append_of_dropLeading? hdrop] at hrest
            exact (List.mem_cons.mp hrest).resolve_left hunder
      · exact hc

theorem backslash_not_mem {t : Text} {n : Int} (h : read? 16 t = some n) :
    backslash ∉ t := by
  intro hc
  obtain ⟨ascii, hascii, h⟩ := Option.bind_eq_some_iff.mp h
  obtain ⟨value, hvalue, -⟩ := Option.bind_eq_some_iff.mp h
  have hmem := mem_of_toAscii? hascii hc (by decide)
  have hbody := mem_sign (by decide) (by decide) (@mem_trim isAsciiBlank _ _ (by decide) hmem)
  have hdigits := @mem_dropBaseMark 16 _ _ (by decide) (by decide) (by decide) hbody
  rcases digitValue?_of_mem_readDigits hvalue hdigits with hunder | ⟨d, hd⟩
  · exact absurd hunder (by decide)
  · exact absurd hd (by simp [show digitValue? backslash = none from rfl])

end Numeral

namespace Properties

/-! ## Escapes one after the other -/

theorem characterOf_eq_ok_iff {code : Text} {c : Nat} :
    characterOf code = .ok c ↔ Numeral.read? codeBase code = some (c : Int) := by
  rw [characterOf]
  cases Numeral.read? codeBase code with
  | none => simp
  | some n =>
      by_cases hn : n < 0
      · simp only [if_pos hn, reduceCtorEq, Option.some.injEq, false_iff]
        omega
      · simp only [if_neg hn, Except.ok.injEq, Option.some.injEq]
        omega

theorem backslash_not_mem_of_characterOf {code : Text} {c : Nat} (h : characterOf code = .ok c) :
    backslash ∉ code :=
  Numeral.backslash_not_mem (characterOf_eq_ok_iff.mp h)

/-- With a backslash among four characters, `u` before them writes none. -/
theorem not_unescape_code {before rest out : Text} (hshort : before.length < 4)
    (hlong : ¬ (before ++ backslash :: rest).length < 4) :
    unescape (backslash :: 'u' :: (before ++ backslash :: rest)) ≠ .ok out := by
  intro h
  obtain ⟨k, hk⟩ : ∃ k, 4 - before.length = k + 1 := ⟨3 - before.length, by omega⟩
  have htake : (before ++ backslash :: rest).take 4 = before ++ backslash :: rest.take k := by
    rw [List.take_append, List.take_of_length_le (by omega), hk, List.take_succ_cons]
  have hlength : ((before ++ backslash :: rest).take 4).length = 4 := by
    rw [List.length_take]
    omega
  rw [← List.take_append_drop 4 (before ++ backslash :: rest), unescape_code hlength, htake] at h
  obtain ⟨c, hc, -⟩ := bind_eq_ok_iff.mp h
  exact backslash_not_mem_of_characterOf hc (by simp)

/-- Where the whole text stands for something, both parts do on their own. -/
def Splits (whole front behind : Text) : Prop :=
  ∀ out, unescape whole = .ok out →
    ∃ x y, unescape front = .ok x ∧ unescape behind = .ok y ∧ out = x ++ y

theorem Splits.cons {whole front behind whole' front' : Text} {c : Nat}
    (h : Splits whole front behind) (hwhole : unescape whole' = (unescape whole).map (c :: ·))
    (hfront : unescape front' = (unescape front).map (c :: ·)) : Splits whole' front' behind := by
  intro out hout
  rw [hwhole] at hout
  obtain ⟨inner, hinner, rfl⟩ := map_eq_ok_iff.mp hout
  obtain ⟨x, y, hx, hy, rfl⟩ := h inner hinner
  exact ⟨c :: x, y, by rw [hfront, hx]; rfl, hy, rfl⟩

/-- What stands before an escape is read as on its own. -/
theorem splits_append {before : Text} (hclosed : isContinued before = false) (rest : Text) :
    Splits (before ++ backslash :: rest) before (backslash :: rest) := by
  induction before using raw_induction with
  | nil => exact fun out hout => ⟨[], out, rfl, hout, rfl⟩
  | last => cases hclosed
  | plain c before hc ih =>
      rw [← List.singleton_append, isContinued_append (isContinued_singleton hc)] at hclosed
      exact (ih hclosed).cons (Written.unescape_cons hc _) (Written.unescape_cons hc _)
  | escape c before hc ih =>
      have hbefore := (isContinued_append (isContinued_pair c) before).symm.trans hclosed
      exact (ih hbefore).cons (Written.unescape_escape hc _) (Written.unescape_escape hc _)
  | short before hshort ih =>
      have hbefore := (isContinued_append (isContinued_pair 'u') before).symm.trans hclosed
      by_cases hlong : (before ++ backslash :: rest).length < 4
      · exact (ih hbefore).cons (unescape_short hlong) (unescape_short hshort)
      · exact fun out hout => absurd hout (not_unescape_code hshort hlong)
  | code code before hlength ih =>
      have hbehind := (isContinued_append (isContinued_pair 'u') (code ++ before)).symm.trans hclosed
      have hwhole : backslash :: 'u' :: (code ++ before) ++ backslash :: rest =
          backslash :: 'u' :: (code ++ (before ++ backslash :: rest)) := by simp
      rw [hwhole]
      intro out hout
      obtain ⟨c, hc, -⟩ := bind_eq_ok_iff.mp ((unescape_code hlength _).symm.trans hout)
      have hsolid := isContinued_of_not_mem (backslash_not_mem_of_characterOf hc)
      rw [isContinued_append hsolid] at hbehind
      have hread := unescape_character hlength hc
      exact (ih hbehind).cons (hread _) (hread _) out hout

/-! ## Where a code is to be -/

/-- The key or the value of an entry, as it is written. -/
def IsRaw (t raw : Text) : Prop :=
  ∃ line ∈ logicalLines t, raw = (splitEntry line).1 ∨ raw = (splitEntry line).2

/-- A backslash that no other escapes, `u` behind it, and the text on both sides. -/
def CodeAt (raw before after : Text) : Prop :=
  raw = before ++ backslash :: 'u' :: after ∧ isContinued before = false

/-- Four digits of base 16, and the character they are the code of. -/
inductive HexCode : Text → Nat → Prop
  | intro {w x y z a b c d : Nat} (ha : HexDigit w a) (hb : HexDigit x b) (hc : HexDigit y c)
      (hd : HexDigit z d) : HexCode [a, b, c, d] (((w * 16 + x) * 16 + y) * 16 + z)

/-- No code has other characters than digits. -/
def WellFormed (raw : Text) : Prop :=
  ∀ before code after, CodeAt raw before (code ++ after) → code.length = 4 → ∃ c, HexCode code c

/-- Between what the texts on both sides stand for, the raw text stands for this character. -/
def Contributes (raw before after : Text) (c : Nat) : Prop :=
  ∃ x y, unescape before = .ok x ∧ unescape after = .ok y ∧ unescape raw = .ok (x ++ c :: y)

/-- Four characters that are not read as a number, or as a negative one. -/
def NoNumber (code : Text) : Prop := ∀ n, Numeral.read? codeBase code = some n → n < 0

/-- What is wrong with a code. -/
inductive IsCodeFault : ScalarFault → Prop
  | numeral (code : Text) : IsCodeFault (.numeral codeBase code)
  | range : IsCodeFault .codePointRange

section Codes

variable {raw before after code out : Text} {c : Nat}

theorem HexCode.length_eq (h : HexCode code c) : code.length = 4 := by
  cases h
  rfl

theorem HexCode.characterOf (h : HexCode code c) : characterOf code = .ok c := by
  obtain ⟨ha, hb, hc, hd⟩ := h
  exact characterOf_eq_ok_iff.mpr (Numeral.read?_four_digits ha hb hc hd)

theorem characterOf_error {fault : ScalarFault} (h : characterOf code = .error fault) :
    IsCodeFault fault := by
  rw [characterOf] at h
  split at h
  · cases h
    exact .numeral code
  · split at h
    · cases h
      exact .range
    · cases h

theorem NoNumber.characterOf_ne (h : NoNumber code) : characterOf code ≠ .ok c := by
  intro hc
  have hnegative := h c (characterOf_eq_ok_iff.mp hc)
  omega

theorem CodeAt.append {s : Text} (hs : isContinued s = false) (h : CodeAt raw before after) :
    CodeAt (s ++ raw) (s ++ before) after := by
  obtain ⟨rfl, hclosed⟩ := h
  exact ⟨(List.append_assoc ..).symm, by rw [isContinued_append hs, hclosed]⟩

theorem WellFormed.of_append {s : Text} (hs : isContinued s = false) (h : WellFormed (s ++ raw)) :
    WellFormed raw :=
  fun before code after hcode => h (s ++ before) code after (hcode.append hs)

theorem WellFormed.of_code (h : WellFormed (backslash :: 'u' :: (code ++ raw)))
    (hlength : code.length = 4) : (∃ c, HexCode code c) ∧ WellFormed raw := by
  obtain ⟨c, hc⟩ := h [] code raw ⟨rfl, rfl⟩ hlength
  have hsolid := isContinued_of_not_mem (backslash_not_mem_of_characterOf hc.characterOf)
  have hbehind := h.of_append (s := [backslash, 'u']) (isContinued_pair 'u')
  exact ⟨⟨c, hc⟩, hbehind.of_append hsolid⟩

theorem WellFormed.exists_unescape (h : WellFormed raw) : ∃ out, unescape raw = .ok out := by
  induction raw using raw_induction with
  | nil => exact ⟨[], rfl⟩
  | last => exact ⟨[backslash], rfl⟩
  | plain c raw hc ih =>
      obtain ⟨out, hout⟩ := ih (h.of_append (s := [c]) (isContinued_singleton hc))
      exact ⟨c :: out, by rw [Written.unescape_cons hc, hout]; rfl⟩
  | escape c raw hc ih =>
      obtain ⟨out, hout⟩ := ih (h.of_append (s := [backslash, c]) (isContinued_pair c))
      exact ⟨escaped c :: out, by rw [Written.unescape_escape hc, hout]; rfl⟩
  | short raw hshort ih =>
      obtain ⟨out, hout⟩ := ih (h.of_append (s := [backslash, 'u']) (isContinued_pair 'u'))
      exact ⟨('u' : Nat) :: out, by rw [unescape_short hshort, hout]; rfl⟩
  | code code raw hlength ih =>
      obtain ⟨⟨c, hc⟩, hrest⟩ := h.of_code hlength
      obtain ⟨out, hout⟩ := ih hrest
      exact ⟨c :: out, by rw [unescape_character hlength hc.characterOf, hout]; rfl⟩

theorem CodeAt.not_unescape (h : CodeAt raw before (code ++ after)) (hlength : code.length = 4)
    (hcode : NoNumber code) : unescape raw ≠ .ok out := by
  intro hout
  obtain ⟨rfl, hclosed⟩ := h
  obtain ⟨x, y, -, hy, -⟩ := splits_append hclosed _ out hout
  rw [unescape_code hlength] at hy
  obtain ⟨c, hc, -⟩ := bind_eq_ok_iff.mp hy
  exact hcode.characterOf_ne hc

theorem HexCode.contributes (hcode : HexCode code c) (h : CodeAt raw before (code ++ after))
    (hout : unescape raw = .ok out) : Contributes raw before after c := by
  obtain ⟨rfl, hclosed⟩ := h
  obtain ⟨x, y, hx, hy, rfl⟩ := splits_append hclosed _ out hout
  rw [unescape_character hcode.length_eq hcode.characterOf] at hy
  obtain ⟨y, hafter, rfl⟩ := map_eq_ok_iff.mp hy
  exact ⟨x, y, hx, hafter, hout⟩

theorem CodeAt.contributes_short (h : CodeAt raw before after) (hshort : after.length < 4)
    (hout : unescape raw = .ok out) : Contributes raw before after 'u' := by
  obtain ⟨rfl, hclosed⟩ := h
  obtain ⟨x, y, hx, hy, rfl⟩ := splits_append hclosed _ out hout
  rw [unescape_short hshort] at hy
  obtain ⟨y, hafter, rfl⟩ := map_eq_ok_iff.mp hy
  exact ⟨x, y, hx, hafter, hout⟩

theorem isCodeFault_of_unescape {fault : ScalarFault} (h : unescape raw = .error fault) :
    IsCodeFault fault := by
  induction raw using raw_induction with
  | nil => cases h
  | last => cases h
  | plain c raw hc ih =>
      rw [Written.unescape_cons hc] at h
      exact ih (map_eq_error_iff.mp h)
  | escape c raw hc ih =>
      rw [Written.unescape_escape hc] at h
      exact ih (map_eq_error_iff.mp h)
  | short raw hshort ih =>
      rw [unescape_short hshort] at h
      exact ih (map_eq_error_iff.mp h)
  | code code raw hlength ih =>
      rw [unescape_code hlength] at h
      rcases bind_eq_error_iff.mp h with hcode | ⟨c, -, h⟩
      · exact characterOf_error hcode
      · exact ih (map_eq_error_iff.mp h)

end Codes

/-! ## Whole texts -/

theorem isCodeFault_of_readEntry {line : Text} {fault : ScalarFault}
    (h : readEntry line = .error fault) : IsCodeFault fault := by
  rcases bind_eq_error_iff.mp h with hvalue | ⟨value, -, h⟩
  · exact isCodeFault_of_unescape hvalue
  · rcases bind_eq_error_iff.mp h with hkey | ⟨key, -, h⟩
    · exact isCodeFault_of_unescape hkey
    · cases h

theorem exists_of_read_eq_error {t : Text} {fault : Fault} (h : read t = .error fault) :
    ∃ line ∈ logicalLines t, ∃ own, readEntry line = .error own ∧ fault = .scalar own := by
  rw [read] at h
  split at h
  · cases h
  · next own hread =>
    obtain ⟨line, hmem, hline⟩ := exists_of_mapM_eq_error hread
    exact ⟨line, hmem, own, hline, (Except.error.inj h).symm⟩

theorem exists_unescape_of_read {t raw : Text} {m : PropertyMap} (h : read t = .ok m)
    (hraw : IsRaw t raw) : ∃ out, unescape raw = .ok out := by
  obtain ⟨entries, htexts, -⟩ := read_eq_ok_iff_texts.mp h
  obtain ⟨line, hline, hraw⟩ := hraw
  obtain ⟨entry, -, hkey, hvalue⟩ := exists_of_mem_results htexts.flip hline
  rcases hraw with rfl | rfl
  · exact ⟨entry.1, hkey⟩
  · exact ⟨entry.2, hvalue⟩

theorem exists_read {t : Text} (h : ∀ raw, IsRaw t raw → ∃ out, unescape raw = .ok out) :
    ∃ m, read t = .ok m := by
  cases hread : read t with
  | ok m => exact ⟨m, rfl⟩
  | error fault =>
      obtain ⟨line, hline, own, hown, -⟩ := exists_of_read_eq_error hread
      obtain ⟨key, hkey⟩ := h _ ⟨line, hline, Or.inl rfl⟩
      obtain ⟨value, hvalue⟩ := h _ ⟨line, hline, Or.inr rfl⟩
      have hentry : readEntry line = .ok (key, value) := readEntry_eq_ok_iff.mpr ⟨hkey, hvalue⟩
      rw [hentry] at hown
      cases hown

/-- A text whose codes are all digits can be read, one with a code that is no number cannot, and in a
text that is read, four digits write their character and fewer characters none. -/
theorem character_codes (t : Text) :
    ((∀ raw, IsRaw t raw → WellFormed raw) → ∃ m, read t = .ok m) ∧
      (∀ raw before code after, IsRaw t raw → CodeAt raw before (code ++ after) → code.length = 4 →
        NoNumber code → ∃ fault, read t = .error (.scalar fault) ∧ IsCodeFault fault) ∧
      ∀ m, read t = .ok m →
        ∃ entries, List.Forall₂ HasTexts (logicalLines t) entries ∧ m.Collects entries ∧
          ∀ raw, IsRaw t raw →
            (∀ before code after c, CodeAt raw before (code ++ after) → HexCode code c →
              Contributes raw before after c) ∧
            ∀ before after, CodeAt raw before after → after.length < 4 →
              Contributes raw before after 'u' := by
  refine ⟨fun hformed => ?_, fun raw before code after hraw hcode hlength hnone => ?_, fun m hm => ?_⟩
  · exact exists_read fun raw hraw => (hformed raw hraw).exists_unescape
  · cases hread : read t with
    | ok m =>
        obtain ⟨out, hout⟩ := exists_unescape_of_read hread hraw
        exact absurd hout (hcode.not_unescape hlength hnone)
    | error fault =>
        obtain ⟨line, -, own, hown, rfl⟩ := exists_of_read_eq_error hread
        exact ⟨own, rfl, isCodeFault_of_readEntry hown⟩
  · obtain ⟨entries, htexts, hcollects⟩ := read_eq_ok_iff_texts.mp hm
    refine ⟨entries, htexts, hcollects, fun raw hraw => ?_⟩
    obtain ⟨out, hout⟩ := exists_unescape_of_read hm hraw
    exact ⟨fun before code after c hcode hhex => hhex.contributes hcode hout,
      fun before after hcode hshort => hcode.contributes_short hshort hout⟩

theorem isRaw_of_logicalLines {t line raw : Text} (h : logicalLines t = [line]) :
    IsRaw t raw ↔ raw = (splitEntry line).1 ∨ raw = (splitEntry line).2 := by
  simp [IsRaw, h]

theorem wellFormed_of_not_mem {raw : Text} (h : backslash ∉ raw) : WellFormed raw := by
  rintro before code after ⟨rfl, -⟩
  exact absurd (by simp) h

theorem HexCode.wellFormed {code : Text} {c : Nat} (h : HexCode code c) :
    WellFormed (backslash :: 'u' :: code) := by
  rintro before code' after ⟨hraw, -⟩ hlength
  have hsolid := backslash_not_mem_of_characterOf h.characterOf
  cases before with
  | nil =>
      obtain ⟨-, hraw⟩ := List.cons.inj hraw
      obtain ⟨-, hraw⟩ := List.cons.inj hraw
      rw [← List.append_nil code] at hraw
      obtain ⟨rfl, -⟩ := List.append_inj hraw (h.length_eq.trans hlength.symm)
      exact ⟨c, h⟩
  | cons d before =>
      have hmem : backslash ∈ ('u' : Nat) :: code := by
        rw [(List.cons.inj hraw).2]
        simp
      exact absurd ((List.mem_cons.mp hmem).resolve_left (by decide)) hsolid

/-- A code at the end of a value, and one that is no number. -/
theorem character_codes_at_end :
    (∃ m, read "a=\\u0041" = .ok m ∧ Contributes "\\u0041" [] [] 'A') ∧
      ∃ fault, read "a=\\u00g1" = .error (.scalar fault) ∧ IsCodeFault fault := by
  have hlines : logicalLines "a=\\u0041" = [("a=\\u0041" : Text)] := by decide
  have hsplit : splitEntry "a=\\u0041" = (("a", "\\u0041") : Text × Text) := by decide
  have hraw : ∀ {raw}, IsRaw "a=\\u0041" raw ↔ raw = "a" ∨ raw = "\\u0041" := by
    intro raw
    rw [isRaw_of_logicalLines hlines, hsplit]
  have hcode : HexCode "0041" 'A' := by
    have hzero : HexDigit 0 '0' := by decide
    exact .intro hzero hzero (w := 0) (y := 4) (z := 1) (by decide) (by decide)
  have hformed : ∀ raw, IsRaw "a=\\u0041" raw → WellFormed raw := by
    intro raw h
    rcases hraw.mp h with rfl | rfl
    · exact wellFormed_of_not_mem (by decide)
    · exact hcode.wellFormed
  have hat : CodeAt "\\u0041" [] (("0041" : Text) ++ []) := ⟨rfl, rfl⟩
  have hrefused : IsRaw "a=\\u00g1" "\\u00g1" := ⟨"a=\\u00g1", by decide, Or.inr (by decide)⟩
  have hnone : NoNumber "00g1" := by
    intro n hn
    cases hn
  constructor
  · obtain ⟨m, hm⟩ := (character_codes "a=\\u0041").1 hformed
    obtain ⟨entries, -, -, hcodes⟩ := (character_codes "a=\\u0041").2.2 m hm
    exact ⟨m, hm, (hcodes "\\u0041" (hraw.mpr (Or.inr rfl))).1 [] "0041" [] 'A' hat hcode⟩
  · exact (character_codes "a=\\u00g1").2.1 "\\u00g1" [] "00g1" [] hrefused ⟨rfl, rfl⟩ rfl hnone

/-- With three characters behind it, `u` begins no code, and the text can be read. -/
theorem accepts_short_code :
    read "a=\\u004" = .ok [("a", .text "u004")] ∧ IsRaw "a=\\u004" "\\u004" ∧
      CodeAt "\\u004" [] "004" ∧ ∀ code after c, ("004" : Text) = code ++ after → ¬ HexCode code c := by
  have hlines : logicalLines "a=\\u004" = [("a=\\u004" : Text)] := by decide
  have hsplit : splitEntry "a=\\u004" = (("a", "\\u004") : Text × Text) := by decide
  have htexts : HasTexts "a=\\u004" ("a", "u004") := by
    rw [HasTexts, hsplit]
    exact ⟨rfl, rfl⟩
  refine ⟨read_of_line hlines htexts, ?_, ⟨rfl, rfl⟩, ?_⟩
  · rw [isRaw_of_logicalLines hlines, hsplit]
    exact Or.inr rfl
  · intro code after c heq hcode
    have hlength := congrArg List.length heq
    rw [List.length_append, hcode.length_eq] at hlength
    have hthree : ("004" : Text).length = 3 := rfl
    omega

end Properties

end ConfigLocator
