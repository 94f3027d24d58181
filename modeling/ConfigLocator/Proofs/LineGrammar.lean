import ConfigLocator.Proofs.EntryGrammar

/-!
# The grammar of lines

A properties text falls into lines, the lines into entries, and an entry into key and value. What
ends a line and what is white space in front of one is up to two classes of characters (`Classes`);
given these, `Classes.Parses` says what the entries of a text are. Every text falls into lines, and
the lines into entries, in one way (`Classes.exists_lines`, `Classes.exists_entries`), so that reading
does what the grammar says wherever the classes are those it goes by (`Classes.Agrees.read_eq_ok_iff`).

The format knows two characters that end a line and three that are white space (`Classes.format`);
reading goes by wider classes (`Classes.unicode`).
-/

namespace ConfigLocator

namespace Properties

/-! ## The grammar of lines -/

/-- What ends a line, and what is white space in front of one. -/
structure Classes where
  endsLine : Nat → Bool
  isWhite : Nat → Bool
  mark_not_white : ∀ c : Nat, c = '#' ∨ c = '!' ∨ c = backslash → isWhite c = false

namespace Classes

/-- Line feed and carriage return; space, tab and form feed. -/
def format : Classes where
  endsLine c := c == lineFeed || c == carriageReturn
  isWhite := isGap
  mark_not_white := by rintro c (rfl | rfl | rfl) <;> rfl

def unicode : Classes where
  endsLine := isLineBreak
  isWhite := isBlank
  mark_not_white := by rintro c (rfl | rfl | rfl) <;> rfl

variable (k : Classes)

def OnLine (t : Text) : Prop := ∀ c ∈ t, k.endsLine c = false

def White (t : Text) : Prop := ∀ c ∈ t, k.isWhite c = true

/-- Starts with no white space. -/
def Bare (t : Text) : Prop := ∀ c ∈ t.head?, k.isWhite c = false

inductive Ends : Text → Prop
  | one {c : Nat} (hc : k.endsLine c = true) : Ends [c]
  | both : Ends [carriageReturn, lineFeed]

/-- The lines of a text, without their ends. -/
inductive Lines : Text → List Text → Prop
  | nil : Lines [] []
  | last {line : Text} (hline : k.OnLine line) (hne : line ≠ []) : Lines line [line]
  | line {line ending t : Text} {rest : List Text} (hline : k.OnLine line) (hending : k.Ends ending)
      (hwhole : ending = [carriageReturn] → t.head? ≠ some lineFeed) (h : Lines t rest) :
      Lines (line ++ (ending ++ t)) (line :: rest)

/-- A line that is blank or a comment, unless the line before it goes on. -/
inductive Idle : Text → Prop
  | blank {t : Text} (h : k.White t) : Idle t
  | comment {indent t : Text} {c : Nat} (hindent : k.White indent) (hc : c = '#' ∨ c = '!') :
      Idle (indent ++ c :: t)

/-- Lines that go on in one another, the text that they make, and the lines behind them. -/
inductive Joins : List Text → Text → List Text → Prop
  | nil : Joins [] [] []
  | closed {indent line : Text} {rest : List Text} (hindent : k.White indent) (hline : k.Bare line)
      (hclosed : isContinued line = false) : Joins ((indent ++ line) :: rest) line rest
  | continued {indent line whole : Text} {rest behind : List Text} (hindent : k.White indent)
      (hline : k.Bare (line ++ [backslash])) (hclosed : isContinued line = false)
      (h : Joins rest whole behind) :
      Joins ((indent ++ (line ++ [backslash])) :: rest) (line ++ whole) behind

/-- Lines, and the text of each entry in them. -/
inductive Entries : List Text → List Text → Prop
  | nil : Entries [] []
  | idle {line : Text} {rest wholes : List Text} (hidle : k.Idle line) (h : Entries rest wholes) :
      Entries (line :: rest) wholes
  | entry {line whole : Text} {rest behind wholes : List Text} (hentry : ¬ k.Idle line)
      (hjoins : k.Joins (line :: rest) whole behind) (h : Entries behind wholes) :
      Entries (line :: rest) (whole :: wholes)

/-- A line goes on in the next one: it belongs to an entry, and a backslash is open at its end. -/
def Continues (before : Prop) (line : Text) : Prop :=
  (before ∨ ¬ k.Idle line) ∧ isContinued line = true

/-- The last of the lines goes on in the next one. -/
def GoesOn (ls : List Text) : Prop := ls.foldl k.Continues False

/-- Behind these lines, this one is blank or a comment. -/
def Silent (before : List Text) (line : Text) : Prop := k.Idle line ∧ ¬ k.GoesOn before

/-- A text and its entries. -/
inductive Parses : Text → List (Text × Text) → Prop
  | intro {t : Text} {ls wholes : List Text} {entries : List (Text × Text)} (hlines : k.Lines t ls)
      (hentries : k.Entries ls wholes) (hreads : List.Forall₂ Reads wholes entries) :
      Parses t entries

end Classes

/-! ## Every text has its lines -/

namespace Classes

variable {k : Classes}

theorem exists_lines (t : Text) : ∃ ls, k.Lines t ls := by
  induction hsize : t.length using Nat.strongRecOn generalizing t with
  | ind n ih =>
      obtain ⟨line, rest, rfl, hfront, hhead⟩ := exists_front (fun c => !k.endsLine c) t
      have hline : k.OnLine line := fun c hc => by simpa using hfront c hc
      rw [List.length_append] at hsize
      match rest with
      | [] =>
          rw [List.append_nil]
          by_cases hne : line = []
          · exact ⟨[], hne ▸ .nil⟩
          · exact ⟨[line], .last hline hne⟩
      | c :: rest =>
          have hc : k.endsLine c = true := by simpa using hhead c rfl
          by_cases hboth : c = carriageReturn ∧ rest.head? = some lineFeed
          · obtain ⟨rfl, hfeed⟩ := hboth
            obtain ⟨rest, rfl⟩ := List.head?_eq_some_iff.mp hfeed
            obtain ⟨ls, hls⟩ := ih rest.length (by simp at hsize; omega) rest rfl
            exact ⟨line :: ls, .line hline .both (by simp) hls⟩
          · obtain ⟨ls, hls⟩ := ih rest.length (by simp at hsize; omega) rest rfl
            refine ⟨line :: ls, .line hline (.one hc) ?_ hls⟩
            intro hreturn hfeed
            exact hboth ⟨List.singleton_inj.mp hreturn, hfeed⟩

theorem lines_ending {ending t : Text} (hending : k.Ends ending)
    (hagree : ∀ c ∈ ending, k.endsLine c = isLineBreak c)
    (hwhole : ending = [carriageReturn] → t.head? ≠ some lineFeed) :
    lines (ending ++ t) = [] :: lines t := by
  cases hending with
  | @one c hc =>
      rw [hagree c (List.mem_cons_self ..)] at hc
      have hapart : ¬ (c = carriageReturn ∧ t.head? = some 0x0A) := by
        rintro ⟨rfl, hfeed⟩
        exact hwhole rfl hfeed
      rw [List.singleton_append, lines, if_neg hapart, if_pos hc]
  | both => rfl

theorem Lines.lines_eq {t : Text} {ls : List Text} (h : k.Lines t ls)
    (hagree : ∀ c ∈ t, k.endsLine c = isLineBreak c) : lines t = ls := by
  induction h with
  | nil => rfl
  | @last line hline hne =>
      have hone : OnOneLine line := fun c hc => (hagree c hc).symm.trans (hline c hc)
      rw [lines_of_onOneLine hone, if_neg hne]
  | @line line ending t rest hline hending hwhole h ih =>
      have hone : OnOneLine line := fun c hc =>
        (hagree c (List.mem_append_left _ hc)).symm.trans (hline c hc)
      have hrest : lines t = rest := ih fun c hc => hagree c (by simp [hc])
      have hends := lines_ending hending (fun c hc => hagree c (by simp [hc])) hwhole
      rw [lines_append hone hends, hrest, List.append_nil]

theorem lines_iff {t : Text} {ls : List Text} (hagree : ∀ c ∈ t, k.endsLine c = isLineBreak c) :
    k.Lines t ls ↔ lines t = ls := by
  refine ⟨fun h => h.lines_eq hagree, ?_⟩
  rintro rfl
  obtain ⟨ls, hls⟩ := @exists_lines k t
  rwa [hls.lines_eq hagree]

theorem Lines.onLine {t : Text} {ls : List Text} (h : k.Lines t ls) : ∀ line ∈ ls, k.OnLine line := by
  induction h with
  | nil => simp
  | last hline => simpa using hline
  | line hline _ _ _ ih => exact List.forall_mem_cons.mpr ⟨hline, ih⟩

/-! ## All lines have their entries -/

theorem idle_iff {line : Text} :
    k.Idle line ↔ isComment (Text.trimStart k.isWhite line) = true := by
  constructor
  · rintro (hblank | @⟨indent, t, c, hindent, hc⟩)
    · rw [Text.trimStart_eq_nil hblank]
      rfl
    · have hsolid : ∀ d ∈ (c :: t).head?, k.isWhite d = false := by
        rintro d ⟨⟩
        exact k.mark_not_white c (hc.imp_right Or.inl)
      rw [trimStart_front hindent hsolid]
      rcases hc with rfl | rfl <;> rfl
  · intro h
    obtain ⟨indent, rest, rfl, hindent, hrest⟩ := exists_front k.isWhite line
    rw [trimStart_front hindent hrest] at h
    cases rest with
    | nil => exact .blank (by rwa [List.append_nil])
    | cons c rest => exact .comment hindent (by simpa [isComment] using h)

theorem Joins.suffix {ls behind : List Text} {whole : Text} (h : k.Joins ls whole behind) :
    behind <:+ ls.tail := by
  induction h with
  | nil => exact List.suffix_rfl
  | closed => exact List.suffix_rfl
  | continued _ _ _ _ ih => exact ih.trans (List.tail_suffix _)

theorem exists_joins (ls : List Text) : ∃ whole behind, k.Joins ls whole behind := by
  induction ls with
  | nil => exact ⟨[], [], .nil⟩
  | cons line ls ih =>
      obtain ⟨indent, line, rfl, hindent, hline⟩ := exists_front k.isWhite line
      cases hopen : isContinued line with
      | false => exact ⟨line, ls, .closed hindent hline hopen⟩
      | true =>
          obtain ⟨line, rfl, hclosed⟩ := exists_of_isContinued hopen
          obtain ⟨whole, behind, hjoins⟩ := ih
          exact ⟨line ++ whole, behind, .continued hindent hline hclosed hjoins⟩

theorem exists_entries (ls : List Text) : ∃ wholes, k.Entries ls wholes := by
  induction hsize : ls.length using Nat.strongRecOn generalizing ls with
  | ind n ih =>
      subst hsize
      cases ls with
      | nil => exact ⟨[], .nil⟩
      | cons line ls =>
          by_cases hidle : k.Idle line
          · obtain ⟨wholes, h⟩ := ih ls.length (by simp) ls rfl
            exact ⟨wholes, .idle hidle h⟩
          · obtain ⟨whole, behind, hjoins⟩ := @exists_joins k (line :: ls)
            have hlength := hjoins.suffix.length_le
            obtain ⟨wholes, h⟩ := ih behind.length (by simp at hlength ⊢; omega) behind rfl
            exact ⟨whole :: wholes, .entry hidle hjoins h⟩

/-- In front of these lines the classes see the same white space as `isBlank`. -/
def SameIndents (k : Classes) (ls : List Text) : Prop :=
  ∀ line ∈ ls, Text.trimStart k.isWhite line = Text.trimStart isBlank line

theorem isComment_of_not_idle {line : Text} {rest : List Text} (hsame : k.SameIndents (line :: rest))
    (h : ¬ k.Idle line) : isComment (Text.trimStart isBlank line) = false := by
  rwa [idle_iff, hsame line (List.mem_cons_self ..), Bool.not_eq_true] at h

/-- Joining goes through the lines of an entry, with what came before them in front. -/
theorem Joins.joinLines_eq {ls behind : List Text} {whole : Text} (h : k.Joins ls whole behind)
    (hsame : k.SameIndents ls) {pending : Option Text}
    (hfirst : pending = none → ∃ line rest, ls = line :: rest ∧ ¬ k.Idle line) :
    joinLines pending ls = (pending.getD [] ++ whole) :: joinLines none behind := by
  have hcomment : ∀ {line rest}, ls = line :: rest → pending = none →
      isComment (Text.trimStart isBlank line) = false := by
    rintro line rest rfl hnone
    obtain ⟨_, _, ⟨⟩, hentry⟩ := hfirst hnone
    exact isComment_of_not_idle hsame hentry
  induction h generalizing pending with
  | nil =>
      cases pending with
      | none =>
          obtain ⟨_, _, ⟨⟩, -⟩ := hfirst rfl
      | some before => simp [joinLines]
  | @closed indent line rest hindent hline hclosed =>
      have htrim : Text.trimStart isBlank (indent ++ line) = line :=
        (hsame _ (List.mem_cons_self ..)).symm.trans (trimStart_front hindent hline)
      have hopen : isContinued (indent ++ line) = false := by
        rw [← isContinued_trimStart, htrim, hclosed]
      rw [joinLines_closed (hcomment rfl) hopen, htrim]
  | @continued indent line whole rest behind hindent hline hclosed h ih =>
      have htrim : Text.trimStart isBlank (indent ++ line ++ [backslash]) = line ++ [backslash] := by
        rw [List.append_assoc, ← hsame _ (List.mem_cons_self ..), trimStart_front hindent hline]
      have hfront : Text.trimStart isBlank (indent ++ line) = line := by
        have hsolid : ∀ c ∈ [backslash].head?, isBlank c = false := by
          rintro c ⟨⟩
          rfl
        rw [Text.trimStart_append hsolid] at htrim
        exact List.append_cancel_right htrim
      have hopen : isContinued (indent ++ line) = false := by
        rw [← isContinued_trimStart, hfront, hclosed]
      have hfirst : pending = none →
          isComment (Text.trimStart isBlank (indent ++ line) ++ [backslash]) = false := by
        intro hnone
        have hmark := hcomment rfl hnone
        rwa [← List.append_assoc, htrim, ← hfront] at hmark
      have hrest : k.SameIndents rest := fun l hl => hsame l (List.mem_cons_of_mem _ hl)
      rw [← List.append_assoc, joinLines_continued hfirst hopen, hfront,
        ih hrest (by simp) (by simp)]
      rw [Option.getD_some, List.append_assoc]

theorem Entries.joinLines_eq {ls wholes : List Text} (h : k.Entries ls wholes)
    (hsame : k.SameIndents ls) : joinLines none ls = wholes := by
  induction h with
  | nil => rfl
  | @idle line rest wholes hidle h ih =>
      rw [idle_iff, hsame line (List.mem_cons_self ..)] at hidle
      rw [joinLines_comment hidle, ih fun l hl => hsame l (List.mem_cons_of_mem _ hl)]
  | @entry line whole rest behind wholes hentry hjoins h ih =>
      have hbehind : k.SameIndents behind := fun l hl =>
        hsame l (List.mem_cons_of_mem _ (hjoins.suffix.mem hl))
      rw [hjoins.joinLines_eq hsame fun _ => ⟨line, rest, rfl, hentry⟩, ih hbehind]
      rfl

theorem entries_iff {ls wholes : List Text} (hsame : k.SameIndents ls) :
    k.Entries ls wholes ↔ joinLines none ls = wholes := by
  refine ⟨fun h => h.joinLines_eq hsame, ?_⟩
  rintro rfl
  obtain ⟨wholes, h⟩ := @exists_entries k ls
  rwa [h.joinLines_eq hsame]

/-- The classes tell a text apart as reading does: they find its lines, and the white space in
front of them. -/
structure Agrees (k : Classes) (t : Text) : Prop where
  ends : ∀ c ∈ t, k.endsLine c = isLineBreak c
  indents : k.SameIndents (lines t)

theorem Agrees.parses_iff {t : Text} (h : k.Agrees t) {entries : List (Text × Text)} :
    k.Parses t entries ↔ List.Forall₂ Reads (logicalLines t) entries := by
  constructor
  · rintro ⟨hlines, hentries, hreads⟩
    obtain rfl := (lines_iff h.ends).mp hlines
    rwa [logicalLines, (entries_iff h.indents).mp hentries]
  · exact fun hreads => ⟨(lines_iff h.ends).mpr rfl, (entries_iff h.indents).mpr rfl, hreads⟩

theorem Agrees.read_eq_ok_iff {t : Text} (h : k.Agrees t) {m : PropertyMap} :
    read t = .ok m ↔ ∃ entries, k.Parses t entries ∧ m.Collects entries := by
  simp only [Properties.read_eq_ok_iff, h.parses_iff]

theorem agrees_unicode (t : Text) : unicode.Agrees t := ⟨fun _ _ => rfl, fun _ _ => rfl⟩

end Classes

end Properties

end ConfigLocator
