import Mathlib.Data.List.Forall2
import Mathlib.Data.List.Induction
import ConfigLocator.Proofs.EscapedText
import ConfigLocator.Proofs.Merging

/-!
# Reading what was written

`Renders` says what a properties text with given entries may look like: each entry is a key, a
separator and a value, folded and indented at will, with blank lines and comments between the
entries and any line ends. Whatever the rendering, reading finds the entries again
(`read_of_renders`), the last value of each key in the place of the first.

One thing a rendering has to see to (`Apart`): where an entry closes with a fold that ends in a
carriage return, a line feed is no line end of its own but belongs to the fold, so that only a blank
line can follow.
-/

namespace ConfigLocator

namespace PropertyMap

/-- The map of these entries: each key where it comes first, with its last value. -/
structure Collects (entries : List (Text × Text)) (m : PropertyMap) : Prop where
  keys : m.keys = (entries.map (·.1)).eraseDups
  find? : ∀ key, m.find? key = (entries.reverse.lookup key).map .text

theorem foldl_bind_eq_merge (entries : List (Text × Text)) :
    entries.foldl (fun bound (k, v) => PropertyMap.bind k (.text v) bound) [] =
      merge [] (entries.map fun (k, v) => (k, .text v)) := by
  rw [merge, List.foldl_map]

theorem collects_foldl_bind (entries : List (Text × Text)) :
    Collects entries (entries.foldl (fun bound (k, v) => bound.bind k (.text v)) []) := by
  have hcomes := comesFrom_merge (entries.map fun (k, v) => (k, .text v))
  rw [foldl_bind_eq_merge]
  refine ⟨?_, fun key => ?_⟩
  · rw [hcomes.keys_eq, keys, List.map_map]
    rfl
  · rw [hcomes.find?_eq, ← List.map_reverse]
    exact find?_map .text key entries.reverse

theorem eq_of_find?_eq {m n : PropertyMap} (hm : m.keys.Nodup) (hkeys : m.keys = n.keys)
    (hfind : ∀ key, m.find? key = n.find? key) : m = n := by
  induction m generalizing n with
  | nil => exact (List.map_eq_nil_iff.mp hkeys.symm).symm
  | cons first m ih =>
      cases n with
      | nil => cases hkeys
      | cons first' n =>
          obtain ⟨key, value⟩ := first
          obtain ⟨key', value'⟩ := first'
          obtain ⟨rfl, htail : keys m = keys n⟩ := List.cons.inj hkeys
          obtain ⟨hfresh : key ∉ keys m, hnodup⟩ := List.nodup_cons.mp hm
          have hvalue := hfind key
          rw [find?_cons, find?_cons, if_pos rfl, if_pos rfl] at hvalue
          rw [Option.some.inj hvalue]
          refine congrArg _ (ih hnodup htail fun other => ?_)
          by_cases hother : other = key
          · rw [hother, find?_eq_none_iff.mpr hfresh, find?_eq_none_iff.mpr (htail ▸ hfresh)]
          · have hlater := hfind other
            rwa [find?_cons, find?_cons, if_neg (Ne.symm hother), if_neg (Ne.symm hother)] at hlater

/-- Only one map is the map of these entries. -/
theorem collects_iff {entries : List (Text × Text)} {m : PropertyMap} :
    Collects entries m ↔
      m = entries.foldl (fun bound (k, v) => PropertyMap.bind k (.text v) bound) [] := by
  have hfold := collects_foldl_bind entries
  refine ⟨fun h => Eq.symm ?_, fun h => h ▸ hfold⟩
  have hnodup := @nodup_keys_merge [] (entries.map fun (k, v) => (k, .text v)) List.nodup_nil
  rw [← foldl_bind_eq_merge] at hnodup
  exact eq_of_find?_eq hnodup (hfold.keys.trans h.keys.symm) fun key =>
    (hfold.find? key).trans (h.find? key).symm

end PropertyMap

namespace Properties

/-! ## Entries -/

def Spaces (t : Text) : Prop := ∀ c ∈ t, c = ' ' ∨ c = '\t'

instance (t : Text) : Decidable (Spaces t) :=
  inferInstanceAs (Decidable (∀ c ∈ t, c = ' ' ∨ c = '\t'))

/-- What may stand between a key and its value. -/
inductive Separator (key : Text) : Text → Prop
  | sign {before after : Text} {c : Nat} (hbefore : Spaces before) (hc : c = '=' ∨ c = ':')
      (hafter : Spaces after) : Separator key (before ++ c :: after)
  | spaces {gap : Text} (hgap : Spaces gap) (hne : gap ≠ []) (hkey : key ≠ []) : Separator key gap

/-- The text of an entry, which folds do not cut inside an escape. -/
inductive EntryText : Text × Text → Text → Prop
  | intro {key value separator t : Text} {keyTokens valueTokens : List Text}
      (hkey : List.Forall₂ Written key keyTokens) (hseparator : Separator key separator)
      (hvalue : List.Forall₂ Written value valueTokens)
      (hfolded : Folded (keyTokens ++ separator.map ([·]) ++ valueTokens) t) :
      EntryText (key, value) t

/-- A line without an entry. -/
inductive Idle : Text → Prop
  | blank {t : Text} (h : Indentation t) : Idle t
  | comment {indent t : Text} {c : Nat} (hindent : Indentation indent) (hc : c = '#' ∨ c = '!')
      (ht : OnOneLine t) : Idle (indent ++ c :: t)

/-- A text with these entries. `ends` says by which line end an entry may be ended, and what may
follow then. -/
inductive Renders (ends : Text → LineEnd → Text → Prop) : List (Text × Text) → Text → Prop
  | lastIdle {line : Text} (h : Idle line) : Renders ends [] line
  | idle {entries : List (Text × Text)} {line t : Text} (e : LineEnd) (h : Idle line)
      (ht : Renders ends entries t) : Renders ends entries (line ++ (e.text ++ t))
  | lastEntry {entry : Text × Text} {indent line : Text} (hindent : Indentation indent)
      (h : EntryText entry line) : Renders ends [entry] (indent ++ line)
  | entry {entry : Text × Text} {entries : List (Text × Text)} {indent line t : Text} (e : LineEnd)
      (hindent : Indentation indent) (h : EntryText entry line) (hends : ends line e t)
      (ht : Renders ends entries t) :
      Renders ends (entry :: entries) (indent ++ (line ++ (e.text ++ t)))

/-- The line end is one of its own, or the line that it would begin is blank. -/
def Apart (line : Text) (e : LineEnd) (t : Text) : Prop :=
  line.getLast? = some carriageReturn → e = .lineFeed → StartsBlank t

theorem separator_equals (key : Text) : Separator key ['='] :=
  @Separator.sign key [] [] '=' (by decide) (Or.inl rfl) (by decide)

/-- Every list of entries whose characters have a code of four digits can be written. -/
theorem exists_renders (entries : List (Text × Text))
    (h : ∀ entry ∈ entries, (∀ c ∈ entry.1, c < 0x10000) ∧ ∀ c ∈ entry.2, c < 0x10000) :
    ∃ t, Renders Apart entries t := by
  induction entries with
  | nil => exact ⟨[], .lastIdle (.blank fun c hc => by cases hc)⟩
  | cons entry entries ih =>
      obtain ⟨hkey, hvalue⟩ := h entry (List.mem_cons_self ..)
      obtain ⟨t, ht⟩ := ih fun e he => h e (List.mem_cons_of_mem entry he)
      obtain ⟨keyTokens, hkey⟩ := exists_forall₂_written hkey
      obtain ⟨valueTokens, hvalue⟩ := exists_forall₂_written hvalue
      have hentry := EntryText.intro hkey (separator_equals entry.1) hvalue (folded_flatten _)
      have hends : ∀ line, Apart line .both t := fun _ _ he => by cases he
      exact ⟨_, @Renders.entry _ _ _ [] _ _ .both (by decide) hentry (hends _) ht⟩

/-! ## One entry -/

theorem Spaces.isBlank {t : Text} (h : Spaces t) : ∀ c ∈ t, isBlank c = true := by
  intro c hc
  rcases h c hc with rfl | rfl <;> decide

theorem Spaces.isGap {t : Text} (h : Spaces t) : ∀ c ∈ t, isGap c = true := by
  intro c hc
  rcases h c hc with rfl | rfl <;> decide

theorem keyLength_eq_zero {c : Nat} (hc : isSeparator c = true) (t : Text) :
    keyLength (c :: t) = 0 := by
  cases t with
  | nil => simp [keyLength, hc]
  | cons d t =>
      have hne : c ≠ backslash := by
        rintro rfl
        revert hc
        decide
      rw [keyLength, if_neg hne, if_pos hc]

theorem valueAfter_eq {t value : Text} {c : Nat} (ht : Text.trimStart isGap t = c :: value)
    (hc : c = '=' ∨ c = ':') : valueAfter t = Text.trimStart isGap value := by
  rw [valueAfter, ht]
  exact if_pos hc

section Separator

variable {key separator : Text}

theorem Separator.exists_first (h : Separator key separator) :
    ∃ first rest, separator = first :: rest ∧ isSeparator first = true := by
  have hgap : ∀ c, isGap c = true → isSeparator c = true := fun c hc => by simp [isSeparator, hc]
  have hspaces : ∀ {c : Nat} {s : Text}, Spaces (c :: s) → isSeparator c = true :=
    fun hs => hgap _ (hs.isGap _ (List.mem_cons_self ..))
  cases h with
  | @sign before after c hbefore hc hafter =>
      cases before with
      | nil => exact ⟨c, after, rfl, by rcases hc with rfl | rfl <;> decide⟩
      | cons d before => exact ⟨d, before ++ c :: after, rfl, hspaces hbefore⟩
  | spaces hs hne =>
      cases separator with
      | nil => exact absurd rfl hne
      | cons c s => exact ⟨c, s, rfl, hspaces hs⟩

theorem Separator.keyLength_append (h : Separator key separator) (value : Text) :
    keyLength (separator ++ value) = 0 := by
  obtain ⟨first, rest, rfl, hfirst⟩ := h.exists_first
  exact keyLength_eq_zero hfirst (rest ++ value)

theorem Separator.valueAfter_append {value : Text} (h : Separator key separator)
    (hvalue : ∀ c ∈ value.head?, StartsText c) : valueAfter (separator ++ value) = value := by
  have hsolid : ∀ c ∈ value.head?, isSeparator c = false := fun c hc => (hvalue c hc).isSeparator
  have hnoGap : ∀ c ∈ value.head?, isGap c = false := fun c hc => by
    have := hsolid c hc
    simp only [isSeparator, Bool.or_eq_false_iff] at this
    exact this.2
  have htrim : ∀ {s : Text}, Spaces s → Text.trimStart isGap (s ++ value) = value := fun hs => by
    rw [Text.trimStart_append_left hs.isGap, Text.trimStart_eq_self hnoGap]
  cases h with
  | @sign before after c hbefore hc hafter =>
      have hsign : isGap c = false := by rcases hc with rfl | rfl <;> decide
      have hstart : Text.trimStart isGap (before ++ c :: after ++ value) =
          c :: (after ++ value) := by
        rw [List.append_assoc, Text.trimStart_append_left hbefore.isGap]
        exact Text.trimStart_cons hsign (after ++ value)
      rw [valueAfter_eq hstart hc, htrim hafter]
  | spaces hs =>
      rw [valueAfter, htrim hs]
      cases value with
      | nil => rfl
      | cons c value =>
          refine if_neg ?_
          have hc := hsolid c rfl
          rintro (rfl | rfl) <;> exact absurd hc (by decide)

theorem Separator.isToken (h : Separator key separator) :
    ∀ w ∈ separator.map ([·]), IsToken w := by
  have hchars : ∀ c ∈ separator, c = '=' ∨ c = ':' ∨ c = ' ' ∨ c = '\t' := by
    intro c hc
    cases h with
    | sign hbefore hsign hafter =>
        rcases List.mem_append.mp hc with hc | hc
        · exact Or.inr (Or.inr (hbefore c hc))
        · rcases List.mem_cons.mp hc with rfl | hc
          · rcases hsign with hsign | hsign
            · exact Or.inl hsign
            · exact Or.inr (Or.inl hsign)
          · exact Or.inr (Or.inr (hafter c hc))
    | spaces hs => exact Or.inr (Or.inr (hs c hc))
  intro w hw
  obtain ⟨c, hc, rfl⟩ := List.mem_map.mp hw
  refine ⟨fun d hd => ?_, ?_⟩
  · rw [List.mem_singleton.mp hd]
    rcases hchars c hc with rfl | rfl | rfl | rfl <;> decide
  · rcases hchars c hc with rfl | rfl | rfl | rfl <;> rfl

end Separator

section Entry

variable {key value separator : Text} {keyTokens valueTokens : List Text}

theorem readEntry_written (hkey : List.Forall₂ Written key keyTokens)
    (hseparator : Separator key separator) (hvalue : List.Forall₂ Written value valueTokens) :
    readEntry (keyTokens.flatten ++ (separator ++ valueTokens.flatten)) = .ok (key, value) := by
  have hlength : keyLength (keyTokens.flatten ++ (separator ++ valueTokens.flatten)) =
      keyTokens.flatten.length := by
    rw [keyLength_flatten_append hkey, hseparator.keyLength_append, Nat.zero_add]
  have hsplit : splitEntry (keyTokens.flatten ++ (separator ++ valueTokens.flatten)) =
      (keyTokens.flatten, valueTokens.flatten) := by
    rw [splitEntry, hlength, List.take_left, List.drop_left,
      hseparator.valueAfter_append (startsText_head?_flatten hvalue)]
  rw [readEntry, hsplit]
  simp only [unescape_flatten hkey, unescape_flatten hvalue]
  rfl

/-- Without the white space at its start an entry is still one, and no comment. -/
theorem exists_trimStart_eq (hkey : List.Forall₂ Written key keyTokens)
    (hseparator : Separator key separator) (value : Text) :
    ∃ separator', Separator key separator' ∧
      Text.trimStart isBlank (keyTokens.flatten ++ (separator ++ value)) =
        keyTokens.flatten ++ (separator' ++ value) ∧
      isComment (keyTokens.flatten ++ (separator' ++ value)) = false := by
  cases hkey with
  | nil =>
      -- What stands before the sign cannot be told from an indentation.
      cases hseparator with
      | @sign before after c hbefore hc hafter =>
          have hempty : Spaces [] := fun d hd => by cases hd
          refine ⟨c :: after, Separator.sign hempty hc hafter, ?_, ?_⟩
          · rw [List.flatten_nil, List.nil_append, List.nil_append, List.append_assoc,
              Text.trimStart_append_left hbefore.isBlank]
            have hsign : isBlank c = false := by rcases hc with rfl | rfl <;> decide
            exact Text.trimStart_cons hsign (after ++ value)
          · rcases hc with rfl | rfl <;> rfl
      | spaces _ _ hne => exact absurd rfl hne
  | @cons _ first _ rest hfirst hrest =>
      obtain ⟨c, w, rfl, hstarts⟩ := hfirst.exists_startsText
      exact ⟨separator, hseparator, Text.trimStart_cons hstarts.isBlank _, hstarts.isComment⟩

theorem flatten_entryTokens (keyTokens : List Text) (separator : Text) (valueTokens : List Text) :
    (keyTokens ++ separator.map ([·]) ++ valueTokens).flatten =
      keyTokens.flatten ++ (separator ++ valueTokens.flatten) := by
  rw [List.flatten_append, List.flatten_append, ← List.flatMap_def, List.flatMap_singleton',
    List.append_assoc]

/-- The folds of an entry are between tokens that can be read without them. -/
theorem EntryText.exists_tokens {entry : Text × Text} {t : Text} (h : EntryText entry t) :
    ∃ tokens, Folded tokens t ∧ (∀ w ∈ tokens, IsToken w) ∧
      isComment (Text.trimStart isBlank tokens.flatten) = false ∧
      readEntry (Text.trimStart isBlank tokens.flatten) = .ok entry := by
  obtain @⟨key, value, separator, t, keyTokens, valueTokens, hkey, hseparator, hvalue, hfolded⟩ := h
  have hflatten := flatten_entryTokens keyTokens separator valueTokens
  have htokens : ∀ w ∈ keyTokens ++ separator.map ([·]) ++ valueTokens, IsToken w := by
    intro w hw
    rcases List.mem_append.mp hw with hw | hw
    · rcases List.mem_append.mp hw with hw | hw
      · exact isToken_of_written hkey w hw
      · exact hseparator.isToken w hw
    · exact isToken_of_written hvalue w hw
  obtain ⟨separator', hseparator', htrim, hcomment⟩ :=
    exists_trimStart_eq hkey hseparator valueTokens.flatten
  refine ⟨_, hfolded, htokens, ?_, ?_⟩
  · rw [hflatten, htrim]
    exact hcomment
  · rw [hflatten, htrim]
    exact readEntry_written hkey hseparator' hvalue

/-- Behind an indentation, and before anything that closes it, an entry is one line again, from
which key and value are read. -/
theorem EntryText.exists_line {entry : Text × Text} {indent t tail : Text} {out : List Text}
    (h : EntryText entry t) (hindent : Indentation indent) (htail : Closes tail out)
    (hmerged : t.getLast? = some carriageReturn → ∀ rest, tail = lineFeed :: rest →
      ∀ before, joinLines (some before) (lines rest) = before :: out) :
    ∃ line, logicalLines (indent ++ (t ++ tail)) = line :: out ∧ readEntry line = .ok entry := by
  obtain ⟨tokens, hfolded, htokens, hcomment, hread⟩ := h.exists_tokens
  have hblank : ∀ c ∈ indent, isBlank c = true := fun c hc => (hindent c hc).1
  have hindented : Text.trimStart isBlank (indent ++ tokens.flatten) =
      Text.trimStart isBlank tokens.flatten := Text.trimStart_append_left hblank tokens.flatten
  have hjoin : joinLines none (lines (indent ++ (t ++ tail))) =
      Text.trimStart isBlank (indent ++ tokens.flatten) :: out :=
    joinLines_folded hfolded htokens htail hmerged hindent.onOneLine
      (isContinued_of_isBlank hblank) fun _ => by rwa [hindented]
  rw [hindented] at hjoin
  exact ⟨_, hjoin, hread⟩

end Entry

/-! ## Whole texts -/

theorem Idle.onOneLine {line : Text} (h : Idle line) : OnOneLine line := by
  cases h with
  | blank h => exact h.onOneLine
  | @comment indent t c hindent hc ht =>
      have hmark : OnOneLine [c] := by
        intro d hd
        rw [List.mem_singleton.mp hd]
        rcases hc with rfl | rfl <;> decide
      exact hindent.onOneLine.append (hmark.append ht)

theorem Idle.isComment {line : Text} (h : Idle line) :
    isComment (Text.trimStart isBlank line) = true := by
  cases h with
  | blank h => rw [Text.trimStart_eq_nil fun c hc => (h c hc).1]; rfl
  | @comment indent t c hindent hc ht =>
      have hsolid : isBlank c = false := by rcases hc with rfl | rfl <;> decide
      rw [Text.trimStart_append_left fun d hd => (hindent d hd).1, Text.trimStart_cons hsolid]
      rcases hc with rfl | rfl <;> rfl

theorem logicalLines_idle {line : Text} (h : Idle line) (e : LineEnd) (t : Text) :
    logicalLines (line ++ (e.text ++ t)) = logicalLines t := by
  obtain ⟨rest, hlines, hrest⟩ := exists_lines_append_lineEnd h.onOneLine e t
  rw [logicalLines, hlines, joinLines_comment h.isComment, hrest]

theorem logicalLines_lastIdle {line : Text} (h : Idle line) : logicalLines line = [] := by
  rw [logicalLines, lines_of_onOneLine h.onOneLine]
  split
  · rfl
  · exact joinLines_comment h.isComment

/-- Each entry has its line, and nothing else has one. -/
theorem Renders.forall₂_readEntry {entries : List (Text × Text)} {t : Text}
    (h : Renders Apart entries t) :
    List.Forall₂ (fun entry line => readEntry line = .ok entry) entries (logicalLines t) := by
  induction h with
  | lastIdle h =>
      rw [logicalLines_lastIdle h]
      exact .nil
  | idle e h _ ih =>
      rw [logicalLines_idle h]
      exact ih
  | @lastEntry entry indent line hindent h =>
      obtain ⟨read, hlines, hread⟩ :=
        h.exists_line hindent closes_nil fun _ rest htail => by cases htail
      rw [List.append_nil] at hlines
      rw [hlines]
      exact .cons hread .nil
  | @entry entry entries indent line t e hindent h hends _ ih =>
      have hmerged : line.getLast? = some carriageReturn → ∀ rest, e.text ++ t = lineFeed :: rest →
          ∀ before, joinLines (some before) (lines rest) = before :: logicalLines t := by
        intro hlast rest htail
        cases e with
        | lineFeed =>
            obtain rfl : t = rest := (List.cons.inj htail).2
            exact joinLines_startsBlank (hends hlast rfl)
        | carriageReturn => exact absurd (List.cons.inj htail).1 (by decide)
        | both => exact absurd (List.cons.inj htail).1 (by decide)
      obtain ⟨read, hlines, hread⟩ := h.exists_line hindent (closes_lineEnd e t) hmerged
      rw [hlines]
      exact .cons hread ih

theorem mapM_readEntry {entries : List (Text × Text)} {ls : List Text}
    (h : List.Forall₂ (fun entry line => readEntry line = .ok entry) entries ls) :
    ls.mapM readEntry = .ok entries := by
  induction h with
  | nil => rfl
  | cons hfirst _ ih =>
      rw [List.mapM_cons, hfirst, ih]
      rfl

theorem read_of_renders {entries : List (Text × Text)} {t : Text} (h : Renders Apart entries t) :
    ∃ m, read t = .ok m ∧ m.Collects entries := by
  refine ⟨_, ?_, PropertyMap.collects_foldl_bind entries⟩
  rw [read, mapM_readEntry h.forall₂_readEntry]

/-- A comment that seems to go on, a fold, and a key that comes twice. -/
theorem read_of_renders_twice :
    Renders Apart [("k", "ab"), ("k", "A")] "! c\\\r\n  k=a\\\r\n  b\rk=\\u0041" ∧
      ∃ m, read "! c\\\r\n  k=a\\\r\n  b\rk=\\u0041" = .ok m ∧
        m.Collects [("k", "ab"), ("k", "A")] := by
  have hk : List.Forall₂ Written "k" ["k"] := forall₂_written_of_isPlain (by decide)
  have hab : List.Forall₂ Written "ab" ["a", "b"] := forall₂_written_of_isPlain (by decide)
  have hA : List.Forall₂ Written "A" ["\\u0041"] := by
    have hzero : HexDigit 0 '0' := by decide
    have hfour : HexDigit 4 '4' := by decide
    have hone : HexDigit 1 '1' := by decide
    exact .cons (.code hzero hzero hfour hone) .nil
  have hfold : Folded ["b"] "\\\r\n  b" :=
    @Folded.fold ["b"] "  " "b" .both (by decide) (by decide) (.token .nil)
  have hfirst : EntryText ("k", "ab") "k=a\\\r\n  b" :=
    .intro hk (separator_equals "k") hab (.token (.token (.token hfold)))
  have hsecond : EntryText ("k", "A") "k=\\u0041" :=
    .intro hk (separator_equals "k") hA (.token (.token (.token .nil)))
  have hcomment : Idle "! c\\" := @Idle.comment [] " c\\" '!' (by decide) (Or.inr rfl) (by decide)
  have h : Renders Apart [("k", "ab"), ("k", "A")] "! c\\\r\n  k=a\\\r\n  b\rk=\\u0041" := by
    refine @Renders.idle _ _ "! c\\" _ .both hcomment ?_
    refine @Renders.entry _ _ _ "  " _ _ .carriageReturn (by decide) hfirst ?_ ?_
    · intro _ he
      cases he
    · exact @Renders.lastEntry _ _ [] _ (by decide) hsecond
  exact ⟨h, read_of_renders h⟩

/-- Where a fold that ends in a carriage return closes an entry, a line feed behind it belongs to
the fold, and the next line to the entry. -/
theorem not_collects_merged_line_end :
    Renders (fun _ _ _ => True) [("a", "b"), ("c", "d")] "a=b\\\r\nc=d" ∧
      ¬ ∃ m, read "a=b\\\r\nc=d" = .ok m ∧ m.Collects [("a", "b"), ("c", "d")] := by
  have hplain : ∀ c ∈ ("abcd" : Text), List.Forall₂ Written [c] [[c]] := by
    have hchars : ∀ c ∈ ("abcd" : Text), IsPlain c := by decide
    exact fun c hc => .cons (.plain (hchars c hc)) .nil
  have hfold : Folded [] "\\\r" :=
    @Folded.fold [] [] [] .carriageReturn (by decide) (by decide) .nil
  have hfirst : EntryText ("a", "b") "a=b\\\r" :=
    .intro (hplain 'a' (by decide)) (separator_equals "a") (hplain 'b' (by decide))
      (.token (.token (.token hfold)))
  have hsecond : EntryText ("c", "d") "c=d" :=
    .intro (hplain 'c' (by decide)) (separator_equals "c") (hplain 'd' (by decide))
      (.token (.token (.token .nil)))
  constructor
  · refine @Renders.entry _ _ _ [] _ _ .lineFeed (by decide) hfirst trivial ?_
    exact @Renders.lastEntry _ _ [] _ (by decide) hsecond
  · rintro ⟨m, hread, hcollects⟩
    have hlines : logicalLines "a=b\\\r\nc=d" = ([("a=bc=d" : Text)] : List Text) := by decide
    have hsplit : splitEntry "a=bc=d" = (("a", "bc=d") : Text × Text) := by decide
    have hkey : unescape "a" = .ok "a" := rfl
    have hvalue : unescape "bc=d" = .ok "bc=d" := rfl
    have hentry : readEntry "a=bc=d" = .ok ("a", "bc=d") := by
      rw [readEntry, hsplit]
      simp only [hkey, hvalue]
      rfl
    have hone : read "a=b\\\r\nc=d" = .ok [("a", .text "bc=d")] := by
      rw [read, hlines, List.mapM_cons, hentry]
      rfl
    obtain rfl : [(("a" : Text), Value.text "bc=d")] = m := Except.ok.inj (hone.symm.trans hread)
    exact absurd hcollects.keys (by decide)

end Properties

end ConfigLocator
