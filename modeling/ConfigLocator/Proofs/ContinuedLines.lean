import Mathlib.Data.List.Induction
import Mathlib.Data.List.TakeWhile
import ConfigLocator.Document.Properties

/-!
# Continued lines

How a text falls into lines and how lines are put together again. A piece of a line that holds no
line break and ends in no open backslash can be moved along (`isContinued_append`), a backslash
before a line end joins what stands on both sides of it, and so folds inside an entry leave no trace
(`joinLines_folded`).

`Folded` says what folds are: a backslash, a line end and an indentation between two tokens, at the
start or at the end, but not before a space or a tab, which would count as indentation.
-/

namespace ConfigLocator

/-! ## Trimming -/

namespace Text

section TrimStart

variable {p : Nat → Bool} {s t : Text}

theorem trimStart_cons {c : Nat} (hc : p c = false) (t : Text) :
    trimStart p (c :: t) = c :: t := by
  rw [trimStart, List.dropWhile_cons, if_neg (by simp [hc])]

theorem trimStart_eq_self (ht : ∀ c ∈ t.head?, p c = false) : trimStart p t = t := by
  cases t with
  | nil => rfl
  | cons c t => exact trimStart_cons (ht c rfl) t

theorem trimStart_eq_nil (h : ∀ c ∈ t, p c = true) : trimStart p t = [] := by
  rw [trimStart, List.dropWhile_eq_nil_iff]
  exact h

theorem trimStart_append_left (hs : ∀ c ∈ s, p c = true) (t : Text) :
    trimStart p (s ++ t) = trimStart p t :=
  List.dropWhile_append_of_pos hs

/-- Trimming ends where a text that is not trimmed starts. -/
theorem trimStart_append (ht : ∀ c ∈ t.head?, p c = false) (s : Text) :
    trimStart p (s ++ t) = trimStart p s ++ t := by
  induction s with
  | nil => exact trimStart_eq_self ht
  | cons c s ih =>
      cases hc : p c with
      | true =>
          have hsingle : ∀ d ∈ [c], p d = true := fun d hd => by rwa [List.mem_singleton.mp hd]
          have hfirst := trimStart_append_left hsingle
          rw [← List.singleton_append, List.append_assoc, hfirst, hfirst, ih]
      | false =>
          rw [List.cons_append, trimStart_cons hc, trimStart_cons hc]
          rfl

theorem trim_eq_self (h : ∀ c ∈ t, p c = false) : trim p t = t := by
  have hend : t.reverse.dropWhile p = t.reverse :=
    trimStart_eq_self fun c hc => h c (List.mem_reverse.mp (List.mem_of_mem_head? hc))
  rw [trim, trimStart_eq_self fun c hc => h c (List.mem_of_mem_head? hc), trimEnd, hend,
    List.reverse_reverse]

end TrimStart

end Text

namespace Properties

/-! ## Line ends -/

inductive LineEnd
  | lineFeed
  | carriageReturn
  | both
  deriving DecidableEq, Repr

def LineEnd.text : LineEnd → Text
  | .lineFeed => [ConfigLocator.lineFeed]
  | .carriageReturn => [Properties.carriageReturn]
  | .both => [Properties.carriageReturn, ConfigLocator.lineFeed]

/-- A text that stays on its line. -/
def OnOneLine (t : Text) : Prop := ∀ c ∈ t, isLineBreak c = false

/-- White space that stays on its line. -/
def Indentation (t : Text) : Prop := ∀ c ∈ t, isBlank c = true ∧ isLineBreak c = false

instance (t : Text) : Decidable (OnOneLine t) :=
  inferInstanceAs (Decidable (∀ c ∈ t, isLineBreak c = false))

instance (t : Text) : Decidable (Indentation t) :=
  inferInstanceAs (Decidable (∀ c ∈ t, isBlank c = true ∧ isLineBreak c = false))

theorem Indentation.onOneLine {t : Text} (h : Indentation t) : OnOneLine t :=
  fun c hc => (h c hc).2

theorem OnOneLine.append {s t : Text} (hs : OnOneLine s) (ht : OnOneLine t) :
    OnOneLine (s ++ t) := by
  intro c hc
  rcases List.mem_append.mp hc with hc | hc
  · exact hs c hc
  · exact ht c hc

theorem OnOneLine.head?_ne_lineFeed {c : Nat} {s t : Text} (h : OnOneLine (c :: s)) :
    (c :: s ++ t).head? ≠ some lineFeed := by
  intro hhead
  have hbreak : isLineBreak c = false := h c (List.mem_cons_self ..)
  rw [Option.some.inj hhead] at hbreak
  exact absurd hbreak (by decide)

theorem onOneLine_backslash : OnOneLine [backslash] := by decide

/-! ## Lines -/

theorem lines_cons_of_not_isLineBreak {c : Nat} (hc : isLineBreak c = false) (t : Text) :
    lines (c :: t) = Text.consFirst c (lines t) := by
  have hcr : c ≠ carriageReturn := fun h => by rw [h] at hc; cases hc
  rw [lines, if_neg fun h => hcr h.1, if_neg (by simp [hc])]

/-- A text on one line goes in front of the first line of what follows. -/
theorem lines_append {s t line : Text} {rest : List Text} (hs : OnOneLine s)
    (ht : lines t = line :: rest) : lines (s ++ t) = (s ++ line) :: rest := by
  induction s with
  | nil => exact ht
  | cons c s ih =>
      have hc : isLineBreak c = false := hs c (List.mem_cons_self ..)
      have htail : OnOneLine s := fun d hd => hs d (List.mem_cons_of_mem c hd)
      rw [List.cons_append, lines_cons_of_not_isLineBreak hc, ih htail]
      rfl

theorem lines_of_onOneLine {s : Text} (hs : OnOneLine s) :
    lines s = if s = [] then [] else [s] := by
  induction s with
  | nil => rfl
  | cons c s ih =>
      have hc : isLineBreak c = false := hs c (List.mem_cons_self ..)
      rw [lines_cons_of_not_isLineBreak hc, ih fun d hd => hs d (List.mem_cons_of_mem c hd)]
      cases s <;> rfl

/-- A line end ends a line, unless it is a carriage return that a line feed follows. -/
theorem lines_lineEnd (e : LineEnd) {t : Text}
    (h : e = .carriageReturn → t.head? ≠ some lineFeed) : lines (e.text ++ t) = [] :: lines t := by
  cases e with
  | lineFeed => rfl
  | carriageReturn =>
      have hnext : t.head? ≠ some 0x0A := h rfl
      rw [LineEnd.text, List.cons_append, List.nil_append, lines, if_neg fun hcr => hnext hcr.2]
      rfl
  | both => rfl

theorem lines_append_lineEnd {s : Text} (hs : OnOneLine s) (e : LineEnd) {t : Text}
    (h : e = .carriageReturn → t.head? ≠ some lineFeed) :
    lines (s ++ (e.text ++ t)) = s :: lines t := by
  rw [lines_append hs (lines_lineEnd e h), List.append_nil]

/-- Between entries it does not matter whether a carriage return and a line feed are one line end:
the line between them is blank. -/
theorem exists_lines_append_lineEnd {s : Text} (hs : OnOneLine s) (e : LineEnd) (t : Text) :
    ∃ rest, lines (s ++ (e.text ++ t)) = s :: rest ∧ joinLines none rest = logicalLines t := by
  by_cases hmerged : e = .carriageReturn ∧ t.head? = some lineFeed
  · obtain ⟨rfl, hhead⟩ := hmerged
    obtain ⟨t', rfl⟩ : ∃ t', t = lineFeed :: t' := by
      cases t with
      | nil => cases hhead
      | cons c t' => exact ⟨t', by rw [Option.some.inj hhead]⟩
    exact ⟨lines t', lines_append_lineEnd hs .both (by simp), rfl⟩
  · exact ⟨lines t, lines_append_lineEnd hs e fun he hhead => hmerged ⟨he, hhead⟩, rfl⟩

/-! ## Open backslashes -/

@[simp] theorem isContinued_nil : isContinued [] = false := rfl

theorem isContinued_concat_backslash (s : Text) :
    isContinued (s ++ [backslash]) = !isContinued s := by
  have hcount : finalBackslashes (s ++ [backslash]) = finalBackslashes s + 1 := by
    simp [finalBackslashes]
  rw [isContinued, isContinued, hcount]
  rcases Nat.mod_two_eq_zero_or_one (finalBackslashes s) with h | h
  · have : (finalBackslashes s + 1) % 2 = 1 := by omega
    rw [h, this]
    rfl
  · have : (finalBackslashes s + 1) % 2 = 0 := by omega
    rw [h, this]
    rfl

theorem isContinued_concat_of_ne {c : Nat} (h : c ≠ backslash) (s : Text) :
    isContinued (s ++ [c]) = false := by
  simp [isContinued, finalBackslashes, h]

/-- Behind a text without an open backslash another text is read as on its own. -/
theorem isContinued_append {s : Text} (hs : isContinued s = false) (t : Text) :
    isContinued (s ++ t) = isContinued t := by
  induction t using List.reverseRecOn with
  | nil => rw [List.append_nil, hs, isContinued_nil]
  | append_singleton t c ih =>
      rw [← List.append_assoc]
      by_cases hc : c = backslash
      · rw [hc, isContinued_concat_backslash, isContinued_concat_backslash, ih]
      · rw [isContinued_concat_of_ne hc, isContinued_concat_of_ne hc]

theorem isContinued_of_isBlank {t : Text} (h : ∀ c ∈ t, isBlank c = true) :
    isContinued t = false := by
  induction t with
  | nil => rfl
  | cons c t ih =>
      have hblank : isBlank c = true := h c (List.mem_cons_self ..)
      have hc : c ≠ backslash := fun heq => by rw [heq] at hblank; revert hblank; decide
      have hsingle : isContinued [c] = false := isContinued_concat_of_ne hc []
      have hrest := isContinued_append hsingle t
      rw [List.singleton_append] at hrest
      rw [hrest]
      exact ih fun d hd => h d (List.mem_cons_of_mem c hd)

theorem isContinued_trimStart (t : Text) :
    isContinued (Text.trimStart isBlank t) = isContinued t := by
  have hblank : isContinued (t.takeWhile isBlank) = false :=
    isContinued_of_isBlank fun c hc => List.mem_takeWhile_imp hc
  have hdrop := isContinued_append hblank (t.dropWhile isBlank)
  rw [List.takeWhile_append_dropWhile] at hdrop
  exact hdrop.symm

/-! ## One line after another -/

theorem isComment_concat_backslash {s t : Text} (h : isComment (s ++ t) = false) :
    isComment (s ++ [backslash]) = false := by
  cases s with
  | nil => decide
  | cons c s => exact h

section Steps

variable {pending : Option Text} {line : Text} {rest : List Text}

theorem joinLines_comment (h : isComment (Text.trimStart isBlank line) = true) :
    joinLines none (line :: rest) = joinLines none rest := by
  simp [joinLines, h]

theorem joinLines_closed
    (hcomment : pending = none → isComment (Text.trimStart isBlank line) = false)
    (hclosed : isContinued line = false) :
    joinLines pending (line :: rest) =
      (pending.getD [] ++ Text.trimStart isBlank line) :: joinLines none rest := by
  have hskip : ¬ (pending.isNone && isComment (Text.trimStart isBlank line)) = true := by
    cases pending with
    | none => simp [hcomment rfl]
    | some before => simp
  rw [← isContinued_trimStart] at hclosed
  rw [joinLines, if_neg hskip, if_neg (by simp [hclosed])]

/-- A line behind which the backslash is open. -/
theorem joinLines_continued
    (hcomment : pending = none → isComment (Text.trimStart isBlank line ++ [backslash]) = false)
    (hclosed : isContinued line = false) :
    joinLines pending ((line ++ [backslash]) :: rest) =
      joinLines (some (pending.getD [] ++ Text.trimStart isBlank line)) rest := by
  have htrim : Text.trimStart isBlank (line ++ [backslash]) =
      Text.trimStart isBlank line ++ [backslash] :=
    Text.trimStart_append (by simp; decide) line
  have hskip : ¬ (pending.isNone &&
      isComment (Text.trimStart isBlank (line ++ [backslash]))) = true := by
    rw [htrim]
    cases pending with
    | none => simp [hcomment rfl]
    | some before => simp
  have hopen : isContinued (Text.trimStart isBlank (line ++ [backslash])) = true := by
    rw [isContinued_trimStart, isContinued_concat_backslash, hclosed]
    rfl
  rw [joinLines, if_neg hskip, if_pos hopen, htrim, List.dropLast_concat]

/-- Reading goes on behind a backslash and a line end, with what was read of the line kept. -/
theorem joinLines_lines_continued
    (hcomment : pending = none → isComment (Text.trimStart isBlank line ++ [backslash]) = false)
    (hline : OnOneLine line) (hclosed : isContinued line = false) (e : LineEnd) {t : Text}
    (h : e = .carriageReturn → t.head? ≠ some lineFeed) :
    joinLines pending (lines (line ++ backslash :: (e.text ++ t))) =
      joinLines (some (pending.getD [] ++ Text.trimStart isBlank line)) (lines t) := by
  have htext : line ++ backslash :: (e.text ++ t) = (line ++ [backslash]) ++ (e.text ++ t) := by simp
  rw [htext, lines_append_lineEnd (hline.append onOneLine_backslash) e h,
    joinLines_continued hcomment hclosed]

end Steps

/-! ## Folds -/

/-- What a fold does not cut: printable ASCII characters and tabs, the backslashes among them all
with what they stand for. -/
structure IsToken (w : Text) : Prop where
  printable : ∀ c ∈ w, c = 0x09 ∨ (0x20 ≤ c ∧ c ≤ 0x7E)
  closed : isContinued w = false

theorem IsToken.onOneLine {w : Text} (h : IsToken w) : OnOneLine w := by
  intro c hc
  have hprintable := h.printable c hc
  simp only [isLineBreak, Bool.or_eq_false_iff, Bool.and_eq_false_iff, decide_eq_false_iff_not,
    beq_eq_false_iff_ne]
  omega

/-- Tokens with folds between them. -/
inductive Folded : List Text → Text → Prop
  | nil : Folded [] []
  | token {w : Text} {tokens : List Text} {t : Text} (ht : Folded tokens t) :
      Folded (w :: tokens) (w ++ t)
  | fold {tokens : List Text} {indent t : Text} (e : LineEnd) (hindent : Indentation indent)
      (hnext : ∀ c ∈ tokens.flatten.head?, c ≠ ' ' ∧ c ≠ '\t') (ht : Folded tokens t) :
      Folded tokens (backslash :: (e.text ++ (indent ++ t)))

theorem folded_flatten (tokens : List Text) : Folded tokens tokens.flatten := by
  induction tokens with
  | nil => exact .nil
  | cons w tokens ih => exact .token ih

section Folded

variable {tokens : List Text} {t : Text}

theorem Folded.head?_ne_lineFeed (hfolded : Folded tokens t) (htokens : ∀ w ∈ tokens, IsToken w) :
    t.head? ≠ some lineFeed := by
  induction hfolded with
  | nil => simp
  | @token w tokens t _ ih =>
      have hw : IsToken w := htokens w (List.mem_cons_self ..)
      cases w with
      | nil => exact ih fun v hv => htokens v (List.mem_cons_of_mem [] hv)
      | cons c w => exact hw.onOneLine.head?_ne_lineFeed
  | fold => simp [backslash, lineFeed]

theorem Folded.flatten_eq_nil (hfolded : Folded tokens []) : tokens.flatten = [] := by
  generalize ht : ([] : Text) = t at hfolded
  induction hfolded with
  | nil => rfl
  | token _ ih =>
      obtain ⟨rfl, rfl⟩ := List.append_eq_nil_iff.mp ht.symm
      exact ih rfl
  | fold => cases ht

/-- A line feed that follows a fold is none of the text that is folded. -/
theorem Folded.eq_nil_of_head? {indent tail : Text} (hfolded : Folded tokens t)
    (htokens : ∀ w ∈ tokens, IsToken w) (hindent : Indentation indent)
    (h : (indent ++ (t ++ tail)).head? = some lineFeed) :
    indent = [] ∧ t = [] ∧ ∃ rest, tail = lineFeed :: rest := by
  cases indent with
  | cons c indent => exact absurd h hindent.onOneLine.head?_ne_lineFeed
  | nil =>
      cases t with
      | cons c t => exact absurd h (hfolded.head?_ne_lineFeed htokens)
      | nil =>
          cases tail with
          | nil => cases h
          | cons c rest => exact ⟨rfl, rfl, rest, by rw [Option.some.inj h]⟩

theorem isBlank_eq_false {c : Nat} (hlower : 0x21 ≤ c) (hupper : c ≤ 0x7E) : isBlank c = false := by
  have hwide : ∀ b ∈ wideBlanks, 0x7E < b := by decide
  have hc : c ∉ wideBlanks := fun hmem => absurd (hwide c hmem) (by omega)
  simp only [isBlank, Bool.or_eq_false_iff, Bool.and_eq_false_iff, decide_eq_false_iff_not,
    beq_eq_false_iff_ne, List.contains_eq_mem]
  exact ⟨by omega, hc⟩

/-- Where the tokens go on with neither a space nor a tab, they go on with no white space. -/
theorem isBlank_head?_flatten (htokens : ∀ w ∈ tokens, IsToken w)
    (hnext : ∀ c ∈ tokens.flatten.head?, c ≠ ' ' ∧ c ≠ '\t') :
    ∀ c ∈ tokens.flatten.head?, isBlank c = false := by
  intro c hc
  obtain ⟨w, hw, hcw⟩ := List.mem_flatten.mp (List.mem_of_mem_head? hc)
  have hprintable := (htokens w hw).printable c hcw
  have hne := hnext c hc
  simp only [Char.reduceToNat] at hne
  exact isBlank_eq_false (by omega) (by omega)

end Folded

/-- What stands behind a line and closes it, and the lines that it leaves to come. -/
def Closes (tail : Text) (out : List Text) : Prop :=
  ∀ {pending : Option Text} {line : Text}, OnOneLine line → isContinued line = false →
    (pending = none → isComment (Text.trimStart isBlank line) = false) →
    joinLines pending (lines (line ++ tail)) =
      (pending.getD [] ++ Text.trimStart isBlank line) :: out

theorem closes_nil : Closes [] [] := by
  intro pending line hline hclosed hcomment
  rw [List.append_nil, lines_of_onOneLine hline]
  split
  · next hempty =>
    subst hempty
    cases pending with
    | none => exact absurd (hcomment rfl) (by decide)
    | some before => simp [joinLines, Text.trimStart]
  · rw [joinLines_closed hcomment hclosed]
    rfl

theorem closes_lineEnd (e : LineEnd) (t : Text) : Closes (e.text ++ t) (logicalLines t) := by
  intro pending line hline hclosed hcomment
  obtain ⟨rest, hlines, hrest⟩ := exists_lines_append_lineEnd hline e t
  rw [hlines, joinLines_closed hcomment hclosed, hrest]

/-- White space up to the first line end, or up to the end. -/
def StartsBlank (t : Text) : Prop :=
  ∃ s, Indentation s ∧ (t = s ∨ ∃ (e : LineEnd) (rest : Text), t = s ++ (e.text ++ rest))

/-- A blank line closes the line that goes on in it, and is nothing else. -/
theorem joinLines_startsBlank {t : Text} (h : StartsBlank t) (before : Text) :
    joinLines (some before) (lines t) = before :: logicalLines t := by
  obtain ⟨s, hs, ht⟩ := h
  have htrim : Text.trimStart isBlank s = [] := Text.trimStart_eq_nil fun c hc => (hs c hc).1
  have hclosed : isContinued s = false := isContinued_of_isBlank fun c hc => (hs c hc).1
  have hblank : ∀ rest, joinLines (some before) (s :: rest) = before :: joinLines none rest := by
    intro rest
    rw [joinLines_closed (by simp) hclosed, htrim, List.append_nil]
    rfl
  have hskip : ∀ rest, joinLines none (s :: rest) = joinLines none rest :=
    fun rest => joinLines_comment (by rw [htrim]; rfl)
  rcases ht with rfl | ⟨e, rest, rfl⟩
  · rw [logicalLines, lines_of_onOneLine hs.onOneLine]
    split
    · rfl
    · rw [hblank, hskip]
  · obtain ⟨behind, hlines, _⟩ := exists_lines_append_lineEnd hs.onOneLine e rest
    rw [logicalLines, hlines, hblank, hskip]

/-- Folded tokens are read as the tokens alone. The induction goes along the text; `pending` is
what the lines before hold and `line` what has been passed of the present one. A fold at the end
can take the line feed behind it, and then it is up to the rest to close the line. -/
theorem joinLines_folded {tokens : List Text} {t tail : Text} {out : List Text}
    (hfolded : Folded tokens t) (htokens : ∀ w ∈ tokens, IsToken w) (htail : Closes tail out)
    (hmerged : t.getLast? = some carriageReturn → ∀ rest, tail = lineFeed :: rest →
      ∀ before, joinLines (some before) (lines rest) = before :: out)
    {pending : Option Text} {line : Text} (hline : OnOneLine line)
    (hclosed : isContinued line = false)
    (hcomment : pending = none →
      isComment (Text.trimStart isBlank (line ++ tokens.flatten)) = false) :
    joinLines pending (lines (line ++ (t ++ tail))) =
      (pending.getD [] ++ Text.trimStart isBlank (line ++ tokens.flatten)) :: out := by
  have hlast : ∀ {s t : Text}, t.getLast? = some carriageReturn →
      (s ++ t).getLast? = some carriageReturn := by
    intro s t ht
    rw [List.getLast?_append, ht]
    rfl
  induction hfolded generalizing pending line with
  | nil =>
      rw [List.flatten_nil, List.append_nil] at hcomment ⊢
      exact htail hline hclosed hcomment
  | @token w tokens t _ ih =>
      have hw : IsToken w := htokens w (List.mem_cons_self ..)
      have hraw : line ++ (w :: tokens).flatten = (line ++ w) ++ tokens.flatten := by simp
      have htext : line ++ (w ++ t ++ tail) = (line ++ w) ++ (t ++ tail) := by simp
      have hopen : isContinued (line ++ w) = false := by
        rw [isContinued_append hclosed, hw.closed]
      rw [hraw] at hcomment ⊢
      rw [htext]
      exact ih (fun v hv => htokens v (List.mem_cons_of_mem w hv)) (fun ht => hmerged (hlast ht))
        (hline.append hw.onOneLine) hopen hcomment
  | @fold tokens indent t e hindent hnext hrest ih =>
      have hsolid := isBlank_head?_flatten htokens hnext
      have hblank : ∀ c ∈ indent, isBlank c = true := fun c hc => (hindent c hc).1
      have hfirst : pending = none →
          isComment (Text.trimStart isBlank line ++ [backslash]) = false := by
        intro hnone
        have := hcomment hnone
        rw [Text.trimStart_append hsolid] at this
        exact isComment_concat_backslash this
      have htrim : pending.getD [] ++ Text.trimStart isBlank (line ++ tokens.flatten) =
          (pending.getD [] ++ Text.trimStart isBlank line)
            ++ Text.trimStart isBlank (indent ++ tokens.flatten) := by
        rw [Text.trimStart_append hsolid, Text.trimStart_append hsolid, Text.trimStart_eq_nil hblank,
          List.nil_append, List.append_assoc]
      have htext : line ++ (backslash :: (e.text ++ (indent ++ t)) ++ tail) =
          line ++ backslash :: (e.text ++ (indent ++ (t ++ tail))) := by simp
      rw [htext, htrim]
      by_cases hone : e = .carriageReturn ∧ (indent ++ (t ++ tail)).head? = some lineFeed
      · -- The fold ends in the line end that was to close the entry.
        obtain ⟨rfl, hhead⟩ := hone
        obtain ⟨rfl, rfl, rest, rfl⟩ := hrest.eq_nil_of_head? htokens hindent hhead
        have hboth := joinLines_lines_continued (t := rest) hfirst hline hclosed .both (by simp)
        have hread := hmerged rfl rest rfl (pending.getD [] ++ Text.trimStart isBlank line)
        rw [hrest.flatten_eq_nil, List.append_nil, Text.trimStart_eq_nil hblank, List.append_nil]
        exact hboth.trans hread
      · have happart : e = .carriageReturn → (indent ++ (t ++ tail)).head? ≠ some lineFeed :=
          fun he hhead => hone ⟨he, hhead⟩
        have hwhole : backslash :: (e.text ++ (indent ++ t)) =
            (backslash :: (e.text ++ indent)) ++ t := by simp
        rw [hwhole] at hmerged
        rw [joinLines_lines_continued hfirst hline hclosed e happart]
        exact ih htokens (fun ht => hmerged (hlast ht)) hindent.onOneLine
          (isContinued_of_isBlank hblank) (by simp)

end Properties

end ConfigLocator
