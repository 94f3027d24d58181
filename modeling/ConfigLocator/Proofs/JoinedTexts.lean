import ConfigLocator.Proofs.ClosedLines
import ConfigLocator.Proofs.Leaves
import ConfigLocator.Proofs.LexicalClasses
import ConfigLocator.Proofs.PathNormal

/-!
# Texts one behind the other

Two properties texts with a line feed between them are read as the one overridden by the other
(`Properties.read_joined`), as long as the first does not end in the middle of an entry. The line feed
then ends its last line, or stands for a blank line behind it (`lines_concat_lineFeed`), whichever way
that line ended before; and as no backslash is open at the end, joining starts afresh behind it
(`joinLines_append`).
-/

namespace ConfigLocator

namespace Properties

/-! ## The line feed between the texts -/

theorem lines_ne_nil {t : Text} (h : t ≠ []) : lines t ≠ [] := by
  fun_induction lines t with
  | case1 => exact absurd rfl h
  | case2 c rest hboth ih =>
      refine ih ?_
      rintro rfl
      cases hboth.2
  | case3 => simp
  | case4 c rest =>
      cases lines rest <;> simp [Text.consFirst]

theorem head?_append_lineFeed (a b : Text) :
    (a ++ lineFeed :: b).head? = (a ++ [lineFeed]).head? := by
  cases a <;> rfl

/-- Behind a line feed the lines are those of the rest. -/
theorem lines_append_lineFeed (a b : Text) :
    lines (a ++ lineFeed :: b) = lines (a ++ [lineFeed]) ++ lines b := by
  induction a with
  | nil => rfl
  | cons c a ih =>
      rw [List.cons_append, List.cons_append, lines, lines, head?_append_lineFeed, ih]
      split
      · rfl
      · split
        · rfl
        · exact Text.consFirst_append c (lines_ne_nil (by simp)) (lines b)

/-- A line feed behind a text ends the last line, or is the second half of its end, or makes a blank
line of its own. -/
theorem lines_concat_lineFeed (a : Text) :
    lines (a ++ [lineFeed]) = lines a ∨ lines (a ++ [lineFeed]) = lines a ++ [[]] := by
  induction a with
  | nil => exact Or.inr rfl
  | cons c a ih =>
      -- Only the last character can be a carriage return that the line feed belongs to.
      by_cases hnil : a = []
      · subst hnil
        by_cases hreturn : c = carriageReturn
        · subst hreturn
          exact Or.inl rfl
        · cases hbreak : isLineBreak c with
          | true =>
              right
              simp [lines, hreturn, hbreak, show isLineBreak lineFeed = true from rfl]
          | false =>
              left
              rw [List.singleton_append, lines_cons_of_not_isLineBreak hbreak,
                lines_cons_of_not_isLineBreak hbreak]
              rfl
      · have hhead : (a ++ [lineFeed]).head? = a.head? := List.head?_append_of_ne_nil a hnil
        rw [List.cons_append, lines, lines, hhead]
        split
        · exact ih
        · split
          · exact ih.imp (congrArg ([] :: ·)) (congrArg ([] :: ·))
          · refine ih.imp (congrArg (Text.consFirst c)) fun hgap => ?_
            rw [hgap, Text.consFirst_append c (lines_ne_nil hnil)]

/-! ## Where joining starts afresh -/

/-- Joining has something to go on with behind a line if the line goes on. -/
theorem continues_iff {pending : Option Text} {before : Prop}
    (hbefore : pending.isSome = true ↔ before) (line : Text) :
    Classes.unicode.Continues before line ↔
      ¬ (pending.isNone && isComment (Text.trimStart isBlank line)) = true ∧
        isContinued (Text.trimStart isBlank line) = true := by
  have hidle : Classes.unicode.Idle line ↔ isComment (Text.trimStart isBlank line) = true :=
    Classes.idle_iff
  rw [Classes.Continues, hidle, ← hbefore, isContinued_trimStart]
  cases pending <;> simp

/-- Lines behind which no entry is open are joined on their own. The induction goes along the lines;
`pending` is what was read of an entry that is open before them. -/
theorem joinLines_append {pending : Option Text} {before : Prop}
    (hbefore : pending.isSome = true ↔ before) {ls : List Text}
    (h : ¬ ls.foldl Classes.unicode.Continues before) (rest : List Text) :
    joinLines pending (ls ++ rest) = joinLines pending ls ++ joinLines none rest := by
  induction ls generalizing pending before with
  | nil =>
      obtain rfl : pending = none := by
        cases pending with
        | none => rfl
        | some read => exact absurd (hbefore.mp rfl) h
      rfl
  | cons line ls ih =>
      have hline := continues_iff hbefore line
      rw [List.cons_append, joinLines, joinLines]
      split
      · next hskip => exact ih (by simp [hline, hskip]) h
      · next hentry =>
        split
        · next hopen => exact ih (by simpa [hline, hopen] using hentry) h
        · next hclosed => exact congrArg (_ :: ·) (ih (by simp [hline, hclosed]) h)

/-- A blank line at the end closes an entry that is open, and says nothing otherwise. -/
theorem joinLines_concat_blank (pending : Option Text) (ls : List Text) :
    joinLines pending (ls ++ [[]]) = joinLines pending ls := by
  induction ls generalizing pending with
  | nil => cases pending <;> simp [joinLines, isComment, Text.trimStart]
  | cons line ls ih => simp only [List.cons_append, joinLines, ih]

theorem logicalLines_concat_lineFeed (a : Text) :
    logicalLines (a ++ [lineFeed]) = logicalLines a := by
  rcases lines_concat_lineFeed a with h | h
  · rw [logicalLines, h, logicalLines]
  · rw [logicalLines, h, joinLines_concat_blank, logicalLines]

/-! ## Texts that end with an entry -/

/-- Behind these lines, this one leaves no entry open: it is blank, or it is a comment that no entry
goes on in, or no backslash is open at its end. -/
inductive ClosesEntry (before : List Text) (line : Text) : Prop
  | blank (h : Classes.unicode.White line)
  | comment (h : Classes.unicode.Silent before line)
  | closed (h : finalBackslashes line % 2 = 0)

/-- The last line of the text, which a line feed behind it ends, leaves no entry open. -/
def EndsClosed (a : Text) : Prop :=
  ∀ before line, lines (a ++ [lineFeed]) = before ++ [line] → ClosesEntry before line

theorem closesEntry_iff {before : List Text} {line : Text} :
    ClosesEntry before line ↔ ¬ Classes.unicode.GoesOn (before ++ [line]) := by
  rw [Classes.goesOn_concat_iff, not_and_or, Bool.not_eq_true, isContinued_eq_false_iff]
  constructor
  · rintro (h | h | h)
    · exact Or.inr (isContinued_eq_false_iff.mp h.isContinued)
    · exact Or.inl fun hopen => hopen.elim h.2 fun hentry => hentry h.1
    · exact Or.inr h
  · rintro (h | h)
    · obtain ⟨hbefore, hidle⟩ := not_or.mp h
      exact .comment ⟨not_not.mp hidle, hbefore⟩
    · exact .closed h

theorem endsClosed_iff {a : Text} :
    EndsClosed a ↔ ¬ Classes.unicode.GoesOn (lines (a ++ [lineFeed])) := by
  constructor
  · intro h
    rcases List.eq_nil_or_concat' (lines (a ++ [lineFeed])) with hnil | ⟨before, line, hlines⟩
    · rw [hnil]
      exact id
    · rw [hlines]
      exact closesEntry_iff.mp (h before line hlines)
  · intro h before line hlines
    rw [hlines] at h
    exact closesEntry_iff.mpr h

/-- It is enough to look at the last line of the text alone: a line feed that makes a line of its own
makes a blank one. -/
theorem endsClosed_of_lines {a : Text}
    (h : ∀ before line, lines a = before ++ [line] → ClosesEntry before line) : EndsClosed a := by
  intro before line hlines
  rcases lines_concat_lineFeed a with hsame | hgap
  · exact h before line (hsame.symm.trans hlines)
  · obtain ⟨-, hblank⟩ := List.append_inj' (hgap.symm.trans hlines) rfl
    obtain rfl := List.singleton_inj.mp hblank
    exact .closed rfl

/-! ## Reading both texts -/

theorem logicalLines_joined {a : Text} (h : EndsClosed a) (b : Text) :
    logicalLines (a ++ lineFeed :: b) = logicalLines a ++ logicalLines b := by
  have hstart : (none : Option Text).isSome = true ↔ False := by simp
  rw [logicalLines, lines_append_lineFeed, joinLines_append hstart (endsClosed_iff.mp h),
    ← logicalLines, ← logicalLines, logicalLines_concat_lineFeed]

theorem read_joined_eq {a : Text} (h : EndsClosed a) (b : Text) :
    read (a ++ lineFeed :: b) = do return (← read a).merge (← read b) := by
  rw [read, read, read, logicalLines_joined h, List.mapM_append]
  cases (logicalLines a).mapM readEntry with
  | error fault => rfl
  | ok first =>
      cases (logicalLines b).mapM readEntry with
      | error fault => rfl
      | ok second =>
          show Except.ok _ = Except.ok _
          rw [PropertyMap.foldl_bind_eq_merge, PropertyMap.foldl_bind_eq_merge,
            PropertyMap.foldl_bind_eq_merge, List.map_append, PropertyMap.merge_append,
            PropertyMap.merge_merge_nil]

theorem nodup_keys_of_read {t : Text} {m : PropertyMap} (h : read t = .ok m) : m.keys.Nodup := by
  rw [read] at h
  split at h
  · rw [PropertyMap.foldl_bind_eq_merge] at h
    exact Except.ok.inj h ▸ PropertyMap.nodup_keys_merge List.nodup_nil
  · cases h

/-- Behind a text that leaves no entry open, another one overrides it: it fails if one of them does, and
otherwise the keys of the first keep their places and those of the second their values. -/
theorem read_joined (a b : Text) (h : EndsClosed a) :
    ((∃ fault, read (a ++ lineFeed :: b) = .error fault) ↔
        (∃ fault, read a = .error fault) ∨ ∃ fault, read b = .error fault) ∧
      ∀ base later, read a = .ok base → read b = .ok later →
        read (a ++ lineFeed :: b) = .ok (base.merge later) ∧
          (base.merge later).keys = base.keys ++ later.keys.filter (· ∉ base.keys) ∧
          ∀ key, (base.merge later).find? key = (later.find? key).or (base.find? key) := by
  rw [read_joined_eq h]
  constructor
  · cases read a with
    | error fault => simp [bind, Except.bind]
    | ok base =>
        cases read b <;> simp [bind, Except.bind, pure, Except.pure]
  · intro base later hbase hlater
    have hnodup := nodup_keys_of_read hlater
    rw [hbase, hlater]
    exact ⟨rfl, PropertyMap.keys_merge hnodup, fun key => PropertyMap.find?_merge hnodup⟩

/-- A backslash at the end of a comment is not open. -/
theorem read_joined_comment :
    EndsClosed "a=1\n#\\" ∧
      read ("a=1\n#\\" ++ lineFeed :: "b=2\ra=3") = .ok [("a", .text "3"), ("b", .text "2")] := by
  have hlast : lines "a=1\n#\\" = [("a=1" : Text)] ++ [("#\\" : Text)] := by decide
  have hclosed : EndsClosed "a=1\n#\\" := by
    refine endsClosed_of_lines fun before line hlines => ?_
    obtain ⟨rfl, hline⟩ := List.append_inj' (hlast.symm.trans hlines) rfl
    obtain rfl := List.singleton_inj.mp hline
    refine .comment ⟨Classes.idle_iff.mpr (by decide), ?_⟩
    rintro ⟨-, hopen⟩
    cases hopen
  have hfirst : read "a=1\n#\\" = .ok [("a", .text "1")] := rfl
  have hsecond : read "b=2\ra=3" = .ok [("b", .text "2"), ("a", .text "3")] := rfl
  exact ⟨hclosed, ((read_joined _ "b=2\ra=3" hclosed).2 _ _ hfirst hsecond).1⟩

end Properties

end ConfigLocator
