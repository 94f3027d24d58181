import ConfigLocator.Proofs.CharacterCodes

/-!
# Closed lines

However many lines an entry was joined from, each gave up the one backslash that it goes on with, so
an even number of them is left at its end (`isContinued_of_mem_joinLines`). From this it follows that
reading an entry never runs out of its text in the middle of an escape:

- the scan for the end of the key, which passes over a backslash and the character behind it in one
  step (`scan`), stops within the line, at its first separator that is not escaped (`CutsAt`);
- key and value are closed as the line is, and what unescaping does with a backslash that nothing
  follows is of no account for them (`unescapeOr_of_closed`);
- an escape stands in the key or in the value as a whole (`CutsAt.escape_in_part`).
-/

namespace ConfigLocator

namespace Properties

theorem isContinued_eq_false_iff {t : Text} :
    isContinued t = false ↔ finalBackslashes t % 2 = 0 := by
  rw [isContinued, beq_eq_false_iff_ne]
  omega

/-! ## Joined lines -/

/-- What a line gives to the entry that goes on behind it is closed. -/
theorem isContinued_dropLast {t : Text} (h : isContinued t = true) :
    isContinued t.dropLast = false := by
  obtain ⟨s, rfl, hs⟩ := exists_of_isContinued h
  rwa [List.dropLast_concat]

/-- Joining keeps what it has read so far closed, and so the lines that come of it. -/
theorem isContinued_of_mem_joinLines {pending : Option Text} {ls : List Text}
    (hpending : isContinued (pending.getD []) = false) :
    ∀ line ∈ joinLines pending ls, isContinued line = false := by
  induction ls generalizing pending with
  | nil =>
      cases pending with
      | none => simp [joinLines]
      | some before => simpa [joinLines] using hpending
  | cons first rest ih =>
      rw [joinLines]
      split
      · exact ih rfl
      · split
        · next hopen =>
          refine ih ?_
          rw [Option.getD_some, isContinued_append hpending, isContinued_dropLast hopen]
        · next hclosed =>
          refine List.forall_mem_cons.mpr ⟨?_, ih rfl⟩
          rw [isContinued_append hpending]
          simpa using hclosed

theorem isContinued_of_mem_logicalLines {t line : Text} (h : line ∈ logicalLines t) :
    isContinued line = false :=
  @isContinued_of_mem_joinLines none _ rfl line h

/-! ## The end of the key -/

/-- Where a scan for the end of the key stops. A backslash is passed over with the character behind
it, even if there is none. -/
def scan : Text → Nat
  | [] => 0
  | [c] => if c = backslash then 2 else if isSeparator c then 0 else 1
  | c :: d :: rest =>
    if c = backslash then scan rest + 2
    else if isSeparator c then 0
    else scan (d :: rest) + 1

theorem keyLength_eq_min (line : Text) : keyLength line = min (scan line) line.length := by
  fun_induction scan line with
  | case1 => rfl
  | case2 => rfl
  | case3 c hc hsep => simp [keyLength, hsep]
  | case4 c hc hsep => simp [keyLength, hsep]
  | case5 d rest ih =>
      rw [keyLength_escape, ih]
      simp only [List.length_cons]
      omega
  | case6 c d rest hc hsep => simp [keyLength_eq_zero hsep]
  | case7 c d rest hc hsep ih =>
      rw [Written.keyLength_cons hc (by simpa using hsep), ih]
      simp only [List.length_cons]
      omega

/-- The line is divided where the scan stops. -/
theorem splitEntry_eq_scan (line : Text) :
    splitEntry line = (line.take (scan line), valueAfter (line.drop (scan line))) := by
  rw [splitEntry, keyLength_eq_min]
  rcases Nat.le_total (scan line) line.length with h | h
  · rw [Nat.min_eq_left h]
  · rw [Nat.min_eq_right h, List.take_of_length_le h, List.drop_of_length_le h, List.take_length,
      List.drop_length]

theorem scan_of_closed {line : Text} (hclosed : isContinued line = false) :
    scan line = keyLength line := by
  fun_induction scan line with
  | case1 => rfl
  | case2 => cases hclosed
  | case3 c hc hsep => simp [keyLength, hsep]
  | case4 c hc hsep => simp [keyLength, hsep]
  | case5 d rest ih =>
      have hrest := (isContinued_append (isContinued_pair d) rest).symm.trans hclosed
      rw [keyLength_escape, ih hrest]
  | case6 c d rest hc hsep => rw [keyLength_eq_zero hsep]
  | case7 c d rest hc hsep ih =>
      have hrest := (isContinued_append (isContinued_singleton hc) (d :: rest)).symm.trans hclosed
      rw [Written.keyLength_cons hc (by simpa using hsep), ih hrest]

/-- The line is cut at its first separator behind an even number of backslashes, or at its end if
there is none. -/
structure CutsAt (line : Text) (i : Nat) : Prop where
  le_length : i ≤ line.length
  noSeparator : NoSeparator (line.take i)
  closed : finalBackslashes (line.take i) % 2 = 0
  stops : i = line.length ∨ ∃ c ∈ (line.drop i).head?, isSeparator c = true

theorem cutsAt_scan {line : Text} (hclosed : isContinued line = false) :
    CutsAt line (scan line) := by
  rw [scan_of_closed hclosed]
  obtain ⟨key, rest, rfl, hkey, rfl | ⟨hkeyClosed, c, behind, rfl, hc⟩⟩ := hasKey line
  · rw [List.append_nil] at hclosed ⊢
    rw [keyLength_of_noSeparator hkey]
    refine ⟨le_rfl, by rwa [List.take_length], ?_, Or.inl rfl⟩
    rwa [List.take_length, ← isContinued_eq_false_iff]
  · rw [keyLength_separator hkey hkeyClosed hc]
    refine ⟨by simp, ?_, ?_, Or.inr ⟨c, by simp, hc⟩⟩
    · rwa [List.take_left]
    · rwa [List.take_left, ← isContinued_eq_false_iff]

/-- Not so a line with an open backslash at its end, which the scan leaves behind. -/
example : scan "a\\" = 3 := by decide

/-! ## The value -/

/-- Only white space and a sign are taken off the front of a value, and so no backslash. -/
theorem exists_valueAfter (before t : Text) :
    ∃ gap front, before = gap ++ front ∧ backslash ∉ gap ∧
      valueAfter (before ++ backslash :: t) = front ++ backslash :: t := by
  have hstart : ∀ c ∈ (backslash :: t).head?, isGap c = false := by
    rintro c ⟨⟩
    rfl
  have hgap : ∀ {gap : Text}, Gap gap → backslash ∉ gap := fun h hmem => by cases h backslash hmem
  obtain ⟨gap, rest, rfl, hall, hrest⟩ := exists_front isGap before
  have htrim : Text.trimStart isGap (gap ++ rest ++ backslash :: t) = rest ++ backslash :: t := by
    rw [Text.trimStart_append hstart, trimStart_front hall hrest]
  rw [valueAfter, htrim]
  cases rest with
  | nil => exact ⟨gap, [], rfl, hgap hall, if_neg (by decide)⟩
  | cons c rest =>
      by_cases hc : c = '=' ∨ c = ':'
      · obtain ⟨after, front, rfl, hafter, hfront⟩ := exists_front isGap rest
        refine ⟨gap ++ c :: after, front, by simp, ?_, ?_⟩
        · have hne : backslash ≠ c := by rcases hc with rfl | rfl <;> decide
          simp [hgap hall, hgap hafter, hne]
        · rw [List.cons_append]
          dsimp only
          rw [if_pos hc, Text.trimStart_append hstart, trimStart_front hafter hfront]
      · exact ⟨gap, c :: rest, rfl, hgap hall, if_neg hc⟩

theorem isContinued_of_append {gap front : Text} (hgap : backslash ∉ gap) :
    isContinued (gap ++ front) = isContinued front :=
  isContinued_append (isContinued_of_not_mem hgap) front

theorem isContinued_valueAfter (t : Text) : isContinued (valueAfter t) = isContinued t := by
  have htrim : ∀ s : Text, isContinued (Text.trimStart isGap s) = isContinued s := by
    intro s
    obtain ⟨gap, rest, rfl, hgap, hrest⟩ := exists_front isGap s
    have hsolid : backslash ∉ gap := fun hmem => by cases hgap backslash hmem
    rw [trimStart_front hgap hrest, isContinued_of_append hsolid]
  rw [← htrim t, valueAfter]
  split
  · next hnil => rw [hnil]
  · next c rest hrest =>
    rw [hrest]
    split
    · next hc =>
      have hne : c ≠ backslash := by rcases hc with rfl | rfl <;> decide
      rw [htrim, ← List.singleton_append, isContinued_append (isContinued_singleton hne)]
    · rfl

/-! ## Unescaping -/

/-- Unescaping, except that what a backslash at the very end of the text comes to is left open. -/
def unescapeOr (dangling : Except ScalarFault Text) : Text → Except ScalarFault Text
  | [] => .ok []
  | [c] => if c = backslash then dangling else .ok [c]
  | c :: d :: rest =>
    if c ≠ backslash then do return c :: (← unescapeOr dangling (d :: rest))
    else
      match rest with
      | w :: x :: y :: z :: after =>
        if d = 'u' then do
          let char ← characterOf [w, x, y, z]
          return char :: (← unescapeOr dangling after)
        else do return escaped d :: (← unescapeOr dangling (w :: x :: y :: z :: after))
      | rest => do return escaped d :: (← unescapeOr dangling rest)

section

variable {dangling : Except ScalarFault Text}

theorem unescapeOr_cons {c : Nat} (hc : c ≠ backslash) (t : Text) :
    unescapeOr dangling (c :: t) = (unescapeOr dangling t).map (c :: ·) := by
  cases t with
  | nil => exact if_neg hc
  | cons d t =>
      rw [unescapeOr.eq_def dangling (c :: d :: t)]
      exact if_pos hc

theorem unescapeOr_short {raw : Text} (h : raw.length < 4) (c : Nat) :
    unescapeOr dangling (backslash :: c :: raw) =
      (unescapeOr dangling raw).map (escaped c :: ·) := by
  match raw with
  | [] => rfl
  | [_] => rfl
  | [_, _] => rfl
  | [_, _, _] => rfl
  | _ :: _ :: _ :: _ :: raw =>
      simp only [List.length_cons] at h
      omega

theorem unescapeOr_long {code : Text} (hlength : code.length = 4) (c : Nat) (raw : Text) :
    unescapeOr dangling (backslash :: c :: (code ++ raw)) =
      if c = 'u' then characterOf code >>= fun char => (unescapeOr dangling raw).map (char :: ·)
      else (unescapeOr dangling (code ++ raw)).map (escaped c :: ·) := by
  match code with
  | [w, x, y, z] => rfl

theorem unescapeOr_escape {letter : Nat} (h : letter ≠ 'u') (t : Text) :
    unescapeOr dangling (backslash :: letter :: t) =
      (unescapeOr dangling t).map (escaped letter :: ·) := by
  by_cases hshort : t.length < 4
  · exact unescapeOr_short hshort letter
  · have hlength : (t.take 4).length = 4 := by rw [List.length_take]; omega
    rw [← List.take_append_drop 4 t, unescapeOr_long hlength, if_neg h]

end

theorem unescapeOr_backslash (raw : Text) : unescapeOr (.ok [backslash]) raw = unescape raw := by
  induction raw using raw_induction with
  | nil => rfl
  | last => rfl
  | plain c raw hc ih => rw [unescapeOr_cons hc, Written.unescape_cons hc, ih]
  | escape c raw hc ih => rw [unescapeOr_escape hc, Written.unescape_escape hc, ih]
  | short raw hshort ih => rw [unescapeOr_short hshort, unescape_short hshort, ih]; rfl
  | code code raw hlength ih => rw [unescapeOr_long hlength, unescape_code hlength, if_pos rfl, ih]

/-- What a backslash at the end would come to is of no account for a closed text. A code could hide a
backslash from the count, but no code with a backslash is read as a number. -/
theorem unescapeOr_of_closed {raw : Text} (hclosed : isContinued raw = false)
    (dangling : Except ScalarFault Text) : unescapeOr dangling raw = unescape raw := by
  rw [← unescapeOr_backslash]
  induction raw using raw_induction with
  | nil => rfl
  | last => cases hclosed
  | plain c raw hc ih =>
      rw [← List.singleton_append, isContinued_append (isContinued_singleton hc)] at hclosed
      rw [unescapeOr_cons hc, unescapeOr_cons hc, ih hclosed]
  | escape c raw hc ih =>
      have hrest := (isContinued_append (isContinued_pair c) raw).symm.trans hclosed
      rw [unescapeOr_escape hc, unescapeOr_escape hc, ih hrest]
  | short raw hshort ih =>
      have hrest := (isContinued_append (isContinued_pair 'u') raw).symm.trans hclosed
      rw [unescapeOr_short hshort, unescapeOr_short hshort, ih hrest]
  | code code raw hlength ih =>
      have hbehind := (isContinued_append (isContinued_pair 'u') (code ++ raw)).symm.trans hclosed
      rw [unescapeOr_long hlength, unescapeOr_long hlength, if_pos rfl, if_pos rfl]
      cases hcode : characterOf code with
      | error fault => rfl
      | ok c =>
          rw [isContinued_of_append (backslash_not_mem_of_characterOf hcode)] at hbehind
          rw [ih hbehind]

/-! ## Escapes -/

/-- A backslash with the character behind it, or with a code. -/
inductive Escape : Text → Prop
  | pair (c : Nat) : Escape [backslash, c]
  | code {code : Text} {c : Nat} (h : HexCode code c) : Escape (backslash :: 'u' :: code)

theorem Escape.exists_tail {escape : Text} (h : Escape escape) :
    ∃ c tail, escape = backslash :: c :: tail ∧ ∀ d ∈ tail, isSeparator d = false := by
  cases h with
  | pair c => exact ⟨c, [], rfl, by simp⟩
  | @code code _ h =>
      refine ⟨_, code, rfl, fun d hd => ?_⟩
      obtain ⟨hw, hx, hy, hz⟩ := h
      simp only [List.mem_cons, List.not_mem_nil, or_false] at hd
      rcases hd with rfl | rfl | rfl | rfl
      · exact (isPlain_of_hexDigit hw).startsText.isSeparator
      · exact (isPlain_of_hexDigit hx).startsText.isSeparator
      · exact (isPlain_of_hexDigit hy).startsText.isSeparator
      · exact (isPlain_of_hexDigit hz).startsText.isSeparator

/-- Where the line is cut, an escape is on one side: its backslash cannot be the last character of the
key, and what else belongs to it is no separator. -/
theorem CutsAt.escape_in_part {line before escape after : Text} {i : Nat} (h : CutsAt line i)
    (hline : line = before ++ (escape ++ after)) (hbefore : isContinued before = false)
    (hescape : Escape escape) :
    (∃ more, line.take i = before ++ (escape ++ more)) ∨
      ∃ front, valueAfter (line.drop i) = front ++ (escape ++ after) ∧ isContinued front = false := by
  have hkeyClosed : isContinued (line.take i) = false := isContinued_eq_false_iff.mpr h.closed
  obtain ⟨c, tail, rfl, htail⟩ := hescape.exists_tail
  have hvalue : ∀ {middle : Text}, before = line.take i ++ middle →
      line.drop i = middle ++ (backslash :: c :: tail ++ after) →
      ∃ front, valueAfter (line.drop i) = front ++ (backslash :: c :: tail ++ after) ∧
        isContinued front = false := by
    intro middle hmiddle hdrop
    rw [hmiddle, isContinued_append hkeyClosed] at hbefore
    obtain ⟨gap, front, rfl, hgap, hfront⟩ := exists_valueAfter middle (c :: tail ++ after)
    exact ⟨front, hdrop ▸ hfront, (isContinued_of_append hgap).symm.trans hbefore⟩
  have hparts : line.take i ++ line.drop i = before ++ (backslash :: c :: tail ++ after) := by
    rw [List.take_append_drop, hline]
  rcases List.append_eq_append_iff.mp hparts with ⟨middle, hmiddle, hdrop⟩ | ⟨more, hkey, hmore⟩
  · exact Or.inr (hvalue hmiddle hdrop)
  · match more with
    | [] =>
        rw [List.append_nil] at hkey
        exact Or.inr (@hvalue [] (by rw [hkey, List.append_nil]) hmore.symm)
    | [d] =>
        -- The key would end in the backslash alone.
        obtain ⟨rfl, -⟩ := List.cons.inj hmore
        rw [hkey, isContinued_concat_backslash, hbefore] at hkeyClosed
        cases hkeyClosed
    | d :: e :: more =>
        obtain ⟨rfl, hbehind⟩ := List.cons.inj hmore
        obtain ⟨rfl, hrest⟩ := List.cons.inj hbehind
        rcases List.append_eq_append_iff.mp hrest with ⟨inside, rfl, -⟩ | ⟨rest, rfl, hcut⟩
        · exact Or.inl ⟨inside, by rw [hkey]; simp⟩
        · cases rest with
          | nil => exact Or.inl ⟨[], by rw [hkey]; simp⟩
          | cons d rest =>
              -- The line would be cut at a character of the escape.
              have hhead : (line.drop i).head? = some d := by rw [hcut]; rfl
              have hsolid : isSeparator d = false := htail d (by simp)
              rcases h.stops with hend | ⟨e, he, hsep⟩
              · rw [hend, List.drop_length] at hhead
                cases hhead
              · rw [Option.some.inj (hhead.symm.trans he), hsep] at hsolid
                cases hsolid

/-! ## Reading an entry -/

theorem isContinued_value {line : Text} {i : Nat} (h : CutsAt line i)
    (hclosed : isContinued line = false) : isContinued (valueAfter (line.drop i)) = false := by
  have hkey : isContinued (line.take i) = false := isContinued_eq_false_iff.mpr h.closed
  rw [isContinued_valueAfter, ← isContinued_append hkey, List.take_append_drop, hclosed]

/-- Every entry is closed, it is cut within its line at the first separator that is not escaped, key
and value are closed in turn, so that no backslash of theirs is followed by nothing, and no escape is
cut in two. -/
theorem escapes_never_dangle (t : Text) :
    ∀ line ∈ logicalLines t,
      finalBackslashes line % 2 = 0 ∧ CutsAt line (scan line) ∧
        splitEntry line = (line.take (scan line), valueAfter (line.drop (scan line))) ∧
        (∀ raw, raw = (splitEntry line).1 ∨ raw = (splitEntry line).2 →
          finalBackslashes raw % 2 = 0 ∧ ∀ dangling, unescapeOr dangling raw = unescape raw) ∧
        ∀ before escape after, line = before ++ (escape ++ after) →
          finalBackslashes before % 2 = 0 → Escape escape →
          (∃ more, (splitEntry line).1 = before ++ (escape ++ more)) ∨
            ∃ front, (splitEntry line).2 = front ++ (escape ++ after) ∧
              finalBackslashes front % 2 = 0 := by
  intro line hline
  have hclosed := isContinued_of_mem_logicalLines hline
  have hcut := cutsAt_scan hclosed
  rw [splitEntry_eq_scan]
  refine ⟨isContinued_eq_false_iff.mp hclosed, hcut, rfl, ?_, ?_⟩
  · rintro raw hraw
    have hrawClosed : isContinued raw = false := by
      rcases hraw with rfl | rfl
      · exact isContinued_eq_false_iff.mpr hcut.closed
      · exact isContinued_value hcut hclosed
    exact ⟨isContinued_eq_false_iff.mp hrawClosed, unescapeOr_of_closed hrawClosed⟩
  · intro before escape after hparts hbefore hescape
    simp only [← isContinued_eq_false_iff] at hbefore ⊢
    exact hcut.escape_in_part hparts hbefore hescape

/-- A fold, an escaped separator in the key, and a backslash at the end of the value. -/
theorem escapes_never_dangle_folded :
    ("a\\:b= c\\\\" : Text) ∈ logicalLines "a\\:b\\\n  = c\\\\" ∧
      CutsAt "a\\:b= c\\\\" 4 ∧
      (∀ dangling, unescapeOr dangling "c\\\\" = unescape "c\\\\") ∧
      Escape "\\:" ∧ ∃ more, (splitEntry "a\\:b= c\\\\").1 = "a" ++ ("\\:" ++ more) := by
  have hline : ("a\\:b= c\\\\" : Text) ∈ logicalLines "a\\:b\\\n  = c\\\\" := by decide
  have hsplit : splitEntry "a\\:b= c\\\\" = (("a\\:b", "c\\\\") : Text × Text) := by decide
  have hescape : Escape "\\:" := .pair ':'
  obtain ⟨-, hcut, -, hraw, hescapes⟩ := escapes_never_dangle "a\\:b\\\n  = c\\\\" _ hline
  refine ⟨hline, hcut, (hraw _ (Or.inr (by rw [hsplit]))).2, hescape, ?_⟩
  refine (hescapes "a" "\\:" "b= c\\\\" (by decide) (by decide) hescape).resolve_right ?_
  rintro ⟨front, hfront, -⟩
  have hmem : (':' : Nat) ∈ (splitEntry "a\\:b= c\\\\").2 := by
    rw [hfront]
    exact List.mem_append_right front (by decide)
  rw [hsplit] at hmem
  revert hmem
  decide

end Properties

end ConfigLocator
