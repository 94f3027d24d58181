import ConfigLocator.Proofs.CharacterCodes
import ConfigLocator.Proofs.LineGrammar

/-!
# The characters of the format

Where reading knows more line ends and more white space than the format does, characters are lost: no
line end is ever part of an entry (`Properties.onOneLine_logicalLines`). In a text without these
characters the entries are those of the format, and a character that stands for itself is found again
in the key or the value of the entry it was written in (`Properties.read_by_classes`).
-/

namespace ConfigLocator

namespace Properties

/-! ## What stays -/

namespace Classes

variable {k : Classes} {ls behind wholes : List Text} {whole : Text} {c : Nat}

theorem Joins.exists_mem (h : k.Joins ls whole behind) (hc : c ∈ whole) : ∃ line ∈ ls, c ∈ line := by
  induction h with
  | nil => cases hc
  | closed => exact ⟨_, List.mem_cons_self .., List.mem_append_right _ hc⟩
  | continued _ _ _ _ ih =>
      rcases List.mem_append.mp hc with hc | hc
      · exact ⟨_, List.mem_cons_self .., by simp [hc]⟩
      · obtain ⟨line, hline, hc⟩ := ih hc
        exact ⟨line, List.mem_cons_of_mem _ hline, hc⟩

theorem Entries.exists_mem (h : k.Entries ls wholes) (hwhole : whole ∈ wholes) (hc : c ∈ whole) :
    ∃ line ∈ ls, c ∈ line := by
  induction h with
  | nil => cases hwhole
  | idle _ _ ih =>
      obtain ⟨line, hline, hc⟩ := ih hwhole
      exact ⟨line, List.mem_cons_of_mem _ hline, hc⟩
  | entry _ hjoins _ ih =>
      rcases List.mem_cons.mp hwhole with rfl | hwhole
      · exact hjoins.exists_mem hc
      · obtain ⟨line, hline, hc⟩ := ih hwhole
        exact ⟨line, List.mem_cons_of_mem _ (hjoins.suffix.mem hline), hc⟩

theorem goesOn_concat_iff {before : List Text} {line : Text} :
    k.GoesOn (before ++ [line]) ↔
      (k.GoesOn before ∨ ¬ k.Idle line) ∧ isContinued line = true := by
  rw [GoesOn, List.foldl_concat, ← GoesOn, Continues]

theorem White.isContinued {indent : Text} (h : k.White indent) : isContinued indent = false := by
  refine isContinued_of_not_mem fun hmem => ?_
  have hwhite := h backslash hmem
  rw [k.mark_not_white backslash (Or.inr (Or.inr rfl))] at hwhite
  cases hwhite

/-- The lines of an entry: they hold nothing, besides white space and backslashes, that is not in its
text, and what is behind them is no part of it. -/
theorem Joins.exists_taken (h : k.Joins ls whole behind) :
    ∃ taken, ls = taken ++ behind ∧
      (∀ line ∈ taken, ∀ c ∈ line, k.isWhite c = false → c ≠ backslash → c ∈ whole) ∧
      (behind ≠ [] → ∀ before, ¬ k.GoesOn (before ++ taken)) := by
  have hsolid : ∀ {indent : Text}, k.White indent → ∀ {c : Nat}, k.isWhite c = false → c ∉ indent := by
    intro indent hindent c hwhite hmem
    rw [hindent c hmem] at hwhite
    cases hwhite
  induction h with
  | nil => exact ⟨[], rfl, by simp, fun hne => absurd rfl hne⟩
  | @closed indent line rest hindent _ hclosed =>
      refine ⟨[indent ++ line], rfl, ?_, fun _ before hopen => ?_⟩
      · intro l hl c hc hwhite _
        rw [List.mem_singleton.mp hl] at hc
        exact (List.mem_append.mp hc).resolve_left (hsolid hindent hwhite)
      · have hcontinued := (goesOn_concat_iff.mp hopen).2
        rw [isContinued_append hindent.isContinued, hclosed] at hcontinued
        cases hcontinued
  | @continued indent line whole rest behind hindent _ _ _ ih =>
      obtain ⟨taken, rfl, hkeeps, hends⟩ := ih
      refine ⟨(indent ++ (line ++ [backslash])) :: taken, rfl, ?_, fun hne before => ?_⟩
      · intro l hl c hc hwhite hne
        rcases List.mem_cons.mp hl with rfl | hl
        · have hbehind := (List.mem_append.mp hc).resolve_left (hsolid hindent hwhite)
          have hline := (List.mem_append.mp hbehind).resolve_right (by simpa using hne)
          exact List.mem_append_left whole hline
        · exact List.mem_append_right line (hkeeps l hl c hc hwhite hne)
      · rw [List.append_cons]
        exact hends hne _

/-- Each line that is not silent belongs to an entry. The induction goes along the entries; `before`
are the lines that are behind it already. -/
theorem Entries.keeps (h : k.Entries ls wholes) {before front after : List Text} {line : Text}
    (hbefore : ¬ k.GoesOn before) (hls : ls = front ++ line :: after) :
    k.Silent (before ++ front) line ∨
      ∃ whole ∈ wholes, ∀ c ∈ line, k.isWhite c = false → c ≠ backslash → c ∈ whole := by
  induction h generalizing before front with
  | nil => simp at hls
  | @idle first rest wholes hidle _ ih =>
      cases front with
      | nil =>
          obtain ⟨rfl, -⟩ := List.cons.inj hls
          exact Or.inl ⟨hidle, by rwa [List.append_nil]⟩
      | cons first' front =>
          obtain ⟨rfl, htail⟩ := List.cons.inj hls
          have hnext : ¬ k.GoesOn (before ++ [first]) := fun hopen =>
            (goesOn_concat_iff.mp hopen).1.elim hbefore fun hentry => hentry hidle
          have hrest := ih hnext htail
          rwa [List.append_assoc] at hrest
  | @entry first whole rest behind wholes _ hjoins _ ih =>
      obtain ⟨taken, htaken, hkeeps, hends⟩ := hjoins.exists_taken
      rw [htaken] at hls
      rcases place_of_append hls with ⟨more, rfl, hbehind⟩ | ⟨more, hmore, -⟩
      · have hrest := ih (hends (by simp [hbehind]) before) hbehind
        rw [List.append_assoc] at hrest
        refine hrest.imp_right ?_
        rintro ⟨later, hlater, hline⟩
        exact ⟨later, List.mem_cons_of_mem whole hlater, hline⟩
      · exact Or.inr ⟨whole, List.mem_cons_self .., hkeeps line (by simp [hmore])⟩

end Classes

/-- A character that means nothing but itself, in an escape neither. -/
structure Inert (c : Nat) : Prop where
  not_separator : isSeparator c = false
  not_backslash : c ≠ backslash
  not_code : c ≠ 'u'
  escaped : escaped c = c
  not_digit : ∀ d, ¬ HexDigit d c

section Inert

variable {line key value raw out : Text} {c : Nat}

theorem Divides.keeps (h : Divides line key value) (hc : c ∈ line) (hsep : isSeparator c = false) :
    c ∈ key ∨ c ∈ value := by
  have hgap : isGap c ≠ true := by simp [isGap_of_not_isSeparator hsep]
  cases h with
  | whole => exact Or.inl hc
  | @sign _ before after _ sign _ _ hbefore hsign hafter =>
      have hne : c ≠ sign := by
        rintro rfl
        rw [isSeparator_iff.mpr (Or.inl hsign)] at hsep
        cases hsep
      have hout : c ∉ before ∧ c ∉ after := ⟨fun h => hgap (hbefore c h), fun h => hgap (hafter c h)⟩
      simpa [hne, hout] using hc
  | @gap _ gap _ _ _ hall =>
      have hout : c ∉ gap := fun h => hgap (hall c h)
      simpa [hout] using hc

theorem HexCode.not_mem {code : Text} {d : Nat} (h : HexCode code d) (hc : Inert c) : c ∉ code := by
  obtain ⟨ha, hb, hy, hd⟩ := h
  intro hmem
  simp only [List.mem_cons, List.not_mem_nil, or_false] at hmem
  rcases hmem with rfl | rfl | rfl | rfl
  · exact hc.not_digit _ ha
  · exact hc.not_digit _ hb
  · exact hc.not_digit _ hy
  · exact hc.not_digit _ hd

theorem Decodes.keeps (h : Decodes raw out) (hformed : WellFormed raw) (hc : Inert c)
    (hmem : c ∈ raw) : c ∈ out := by
  induction h with
  | nil => cases hmem
  | last => exact hmem
  | @plain raw out d hd _ ih =>
      rcases List.mem_cons.mp hmem with rfl | hmem
      · exact List.mem_cons_self ..
      · exact List.mem_cons_of_mem d (ih (hformed.of_append (s := [d]) (isContinued_singleton hd)) hmem)
  | @escape raw out d _ _ ih =>
      rcases List.mem_cons.mp ((List.mem_cons.mp hmem).resolve_left hc.not_backslash) with rfl | hmem
      · rw [hc.escaped]
        exact List.mem_cons_self ..
      · have hrest := hformed.of_append (s := [backslash, d]) (isContinued_pair d)
        exact List.mem_cons_of_mem _ (ih hrest hmem)
  | @short raw out _ _ ih =>
      have hrest := hformed.of_append (s := [backslash, 'u']) (isContinued_pair 'u')
      have hbehind := (List.mem_cons.mp hmem).resolve_left hc.not_backslash
      exact List.mem_cons_of_mem _ (ih hrest ((List.mem_cons.mp hbehind).resolve_left hc.not_code))
  | @code code raw out d hlength _ _ ih =>
      obtain ⟨⟨e, he⟩, hrest⟩ := hformed.of_code hlength
      have hbehind := (List.mem_cons.mp hmem).resolve_left hc.not_backslash
      have hafter := (List.mem_cons.mp hbehind).resolve_left hc.not_code
      exact List.mem_cons_of_mem d
        (ih hrest ((List.mem_append.mp hafter).resolve_left (he.not_mem hc)))

theorem Reads.keeps {entry : Text × Text} (h : Reads line entry)
    (hkey : WellFormed (splitEntry line).1) (hvalue : WellFormed (splitEntry line).2) (hc : Inert c)
    (hmem : c ∈ line) : c ∈ entry.1 ∨ c ∈ entry.2 := by
  obtain ⟨hdivides, hkeyText, hvalueText⟩ := h
  rw [divides_iff.mp hdivides] at hkey hvalue
  exact (hdivides.keeps hmem hc.not_separator).imp (hkeyText.keeps hkey hc) (hvalueText.keeps hvalue hc)

end Inert

/-! ## Texts that are read as the format says -/

/-- What reading takes for a line end or for white space in front of a line is one in the format. -/
structure InFormat (t : Text) : Prop where
  ends : ∀ c ∈ t, isLineBreak c = true → c = lineFeed ∨ c = carriageReturn
  indents : ∀ ls, Classes.format.Lines t ls → ∀ line ∈ ls,
    ∀ c ∈ (Text.trimStart isGap line).head?, isBlank c = false

theorem endsLine_format {c : Nat} (h : isLineBreak c = true → c = lineFeed ∨ c = carriageReturn) :
    Classes.format.endsLine c = isLineBreak c := by
  cases hbreak : isLineBreak c with
  | true => rcases h hbreak with rfl | rfl <;> rfl
  | false =>
      have hne : c ≠ lineFeed ∧ c ≠ carriageReturn := by
        constructor <;> rintro rfl <;> cases hbreak
      simpa [Classes.format] using hne

theorem isBlank_of_isGap {c : Nat} (h : isGap c = true) : isBlank c = true := by
  have hcases : (c = ' ' ∨ c = '\t') ∨ c = 0x0C := by simpa [isGap] using h
  rcases hcases with (rfl | rfl) | rfl <;> rfl

theorem sameIndents_format {ls : List Text}
    (h : ∀ line ∈ ls, ∀ c ∈ (Text.trimStart isGap line).head?, isBlank c = false) :
    Classes.format.SameIndents ls := by
  intro line hline
  have hrest := h line hline
  show Text.trimStart isGap line = _
  obtain ⟨indent, rest, rfl, hindent, hsolid⟩ := exists_front isGap line
  rw [trimStart_front hindent hsolid] at hrest ⊢
  exact (trimStart_front (fun c hc => isBlank_of_isGap (hindent c hc)) hrest).symm

theorem inFormat_iff {t : Text} :
    InFormat t ↔ (∀ c ∈ t, isLineBreak c = true → c = lineFeed ∨ c = carriageReturn) ∧
      ∀ line ∈ lines t, ∀ c ∈ (Text.trimStart isGap line).head?, isBlank c = false := by
  constructor
  · rintro ⟨hends, hindents⟩
    have hlines := (Classes.lines_iff fun c hc => endsLine_format (hends c hc)).mpr rfl
    exact ⟨hends, hindents _ hlines⟩
  · rintro ⟨hends, hindents⟩
    refine ⟨hends, fun ls hls => ?_⟩
    rwa [← (Classes.lines_iff fun c hc => endsLine_format (hends c hc)).mp hls]

theorem InFormat.agrees {t : Text} (h : InFormat t) : Classes.format.Agrees t :=
  ⟨fun c hc => endsLine_format (h.ends c hc), sameIndents_format (inFormat_iff.mp h).2⟩

theorem onOneLine_logicalLines (t : Text) : ∀ line ∈ logicalLines t, OnOneLine line := by
  intro whole hwhole c hc
  have hlines : Classes.unicode.Lines t (lines t) := (Classes.lines_iff fun _ _ => rfl).mpr rfl
  have hentries : Classes.unicode.Entries (lines t) (logicalLines t) :=
    (Classes.entries_iff fun _ _ => rfl).mpr rfl
  obtain ⟨line, hline, hc⟩ := hentries.exists_mem hwhole hc
  exact hlines.onLine line hline c hc

theorem InFormat.keeps {t : Text} {ls : List Text} {entries : List (Text × Text)} (h : InFormat t)
    (hformed : ∀ raw, IsRaw t raw → WellFormed raw) (hlines : Classes.format.Lines t ls)
    (hparses : Classes.format.Parses t entries) {before after : List Text} {line : Text}
    (hls : ls = before ++ line :: after) :
    Classes.format.Silent before line ∨
      ∃ entry ∈ entries, ∀ c ∈ line, Inert c → c ∈ entry.1 ∨ c ∈ entry.2 := by
  have hreads := h.agrees.parses_iff.mp hparses
  obtain rfl := (Classes.lines_iff h.agrees.ends).mp hlines
  have hentries : Classes.format.Entries (lines t) (logicalLines t) :=
    (Classes.entries_iff h.agrees.indents).mpr rfl
  have hstart : ¬ Classes.format.GoesOn [] := id
  refine (hentries.keeps hstart hls).imp_right ?_
  rintro ⟨whole, hwhole, hkeeps⟩
  obtain ⟨entry, hentry, hread⟩ := exists_of_mem_results hreads.flip hwhole
  refine ⟨entry, hentry, fun c hc hinert => ?_⟩
  have hwhite : isGap c = false := isGap_of_not_isSeparator hinert.not_separator
  exact hread.keeps (hformed _ ⟨whole, hwhole, Or.inl rfl⟩) (hformed _ ⟨whole, hwhole, Or.inr rfl⟩)
    hinert (hkeeps c hc hwhite hinert.not_backslash)

/-- Reading goes by the wider classes. Where these see nothing that the classes of the format do not,
it goes by those of the format, and keeps every other character of a line that says something. -/
theorem read_by_classes (t : Text) :
    (∀ m, read t = .ok m ↔ ∃ entries, Classes.unicode.Parses t entries ∧ m.Collects entries) ∧
      (∀ line ∈ logicalLines t, OnOneLine line) ∧
      (InFormat t →
        (∀ m, read t = .ok m ↔ ∃ entries, Classes.format.Parses t entries ∧ m.Collects entries) ∧
        ((∀ raw, IsRaw t raw → WellFormed raw) →
          ∀ before line after entries, Classes.format.Lines t (before ++ line :: after) →
            Classes.format.Parses t entries →
            Classes.format.Silent before line ∨
              ∃ entry ∈ entries, ∀ c ∈ line, Inert c → c ∈ entry.1 ∨ c ∈ entry.2)) := by
  refine ⟨fun m => (Classes.agrees_unicode t).read_eq_ok_iff, onOneLine_logicalLines t, fun h => ?_⟩
  exact ⟨fun m => h.agrees.read_eq_ok_iff,
    fun hformed before line after entries hlines hparses => h.keeps hformed hlines hparses rfl⟩

/-- A space that reading takes for white space and the format does not, inside a value. -/
theorem read_by_classes_no_break_space :
    InFormat "a=x\u00a0y" ∧
      ∃ entries, Classes.format.Parses "a=x\u00a0y" entries ∧
        PropertyMap.Collects entries [("a", .text "x\u00a0y")] ∧
        ∃ entry ∈ entries, 0xA0 ∈ entry.1 ∨ 0xA0 ∈ entry.2 := by
  have hlines : logicalLines "a=x\u00a0y" = [("a=x\u00a0y" : Text)] := by decide
  have hsplit : splitEntry "a=x\u00a0y" = (("a", "x\u00a0y") : Text × Text) := by decide
  have htexts : HasTexts "a=x\u00a0y" ("a", "x\u00a0y") := by
    rw [HasTexts, hsplit]
    exact ⟨rfl, rfl⟩
  have hformed : ∀ raw, IsRaw "a=x\u00a0y" raw → WellFormed raw := by
    intro raw hraw
    rw [isRaw_of_logicalLines hlines, hsplit] at hraw
    rcases hraw with rfl | rfl <;> exact wellFormed_of_not_mem (by decide)
  have hformat : InFormat "a=x\u00a0y" := inFormat_iff.mpr ⟨by decide, by decide⟩
  have hline : Classes.format.Lines "a=x\u00a0y" [("a=x\u00a0y" : Text)] :=
    .last (by unfold Classes.OnLine; decide) (by decide)
  have hentry : ¬ Classes.format.Idle "a=x\u00a0y" := fun h => by
    have hcomment := Classes.idle_iff.mp h
    revert hcomment
    decide
  have hinert : Inert 0xA0 :=
    ⟨rfl, by decide, by decide, rfl, fun d h => by have := h.isAlphanumeric; omega⟩
  obtain ⟨hread, hkeeps⟩ := (read_by_classes "a=x\u00a0y").2.2 hformat
  obtain ⟨entries, hparses, hcollects⟩ := (hread _).mp (read_of_line hlines htexts)
  obtain ⟨entry, hmem, hfound⟩ :=
    (hkeeps hformed [] _ [] _ hline hparses).resolve_left fun h => hentry h.1
  exact ⟨hformat, entries, hparses, hcollects, entry, hmem, hfound 0xA0 (by decide) hinert⟩

end Properties

end ConfigLocator
