import ConfigLocator.Proofs.Outcome
import ConfigLocator.Proofs.PropertiesRoundTrip

/-!
# The grammar of an entry

What key and value of an entry are (`Properties.Divides`), and what the raw text of a key or a value
stands for (`Properties.Decodes`), said of the texts alone. Dividing and unescaping do what the grammar
says, and nothing else (`Properties.divides_iff`, `Properties.decodes_iff`).

A character is escaped when an open backslash stands before it, which is what `isContinued` sees: an
odd number of backslashes.
-/

namespace ConfigLocator

namespace Properties

/-! ## Key and value -/

/-- Every separator in the text is escaped. -/
def NoSeparator (key : Text) : Prop :=
  ∀ before c after, key = before ++ c :: after → isContinued before = false → isSeparator c = false

def Gap (t : Text) : Prop := ∀ c ∈ t, isGap c = true

/-- A line with its key and its value. The first separator that is not escaped ends the key; white
space, and one sign in it, is between the two. -/
inductive Divides : (line key value : Text) → Prop
  | whole {key : Text} (hkey : NoSeparator key) : Divides key key []
  | sign {key before after value : Text} {c : Nat} (hkey : NoSeparator key)
      (hclosed : isContinued key = false) (hbefore : Gap before) (hc : c = '=' ∨ c = ':')
      (hafter : Gap after) (hvalue : ∀ d ∈ value.head?, isGap d = false) :
      Divides (key ++ (before ++ c :: (after ++ value))) key value
  | gap {key gap value : Text} (hkey : NoSeparator key) (hclosed : isContinued key = false)
      (hgap : Gap gap) (hne : gap ≠ []) (hvalue : ∀ d ∈ value.head?, isSeparator d = false) :
      Divides (key ++ (gap ++ value)) key value

theorem noSeparator_nil : NoSeparator [] := by
  intro before c after h
  simp at h

/-- Behind what is closed, characters are escaped as they are on their own. -/
theorem NoSeparator.of_append {s t : Text} (hs : isContinued s = false) (h : NoSeparator (s ++ t)) :
    NoSeparator t := by
  rintro before c after rfl hbefore
  refine h (s ++ before) c after (by simp) ?_
  rw [isContinued_append hs, hbefore]

theorem isContinued_pair (c : Nat) : isContinued [backslash, c] = false := by
  by_cases hc : c = backslash
  · subst hc
    rfl
  · exact isContinued_concat_of_ne hc [backslash]

theorem isContinued_singleton {c : Nat} (hc : c ≠ backslash) : isContinued [c] = false :=
  isContinued_concat_of_ne hc []

theorem isContinued_of_not_mem {t : Text} (h : backslash ∉ t) : isContinued t = false := by
  cases t using List.reverseRecOn with
  | nil => rfl
  | append_singleton t c =>
      refine isContinued_concat_of_ne ?_ t
      rintro rfl
      exact h (by simp)

/-- What is closed starts with a character of its own, or with a backslash and what it escapes. -/
theorem closed_cases {s : Text} (hs : isContinued s = false) :
    s = [] ∨ (∃ c t, s = c :: t ∧ c ≠ backslash ∧ isContinued t = false)
      ∨ ∃ c t, s = backslash :: c :: t ∧ isContinued t = false := by
  match s with
  | [] => exact Or.inl rfl
  | c :: t =>
      by_cases hc : c = backslash
      · subst hc
        cases t with
        | nil => cases hs
        | cons d t =>
            refine Or.inr (Or.inr ⟨d, t, rfl, ?_⟩)
            rw [← hs]
            exact (isContinued_append (isContinued_pair d) t).symm
      · refine Or.inr (Or.inl ⟨c, t, rfl, hc, ?_⟩)
        rw [← hs]
        exact (isContinued_append (isContinued_singleton hc) t).symm

theorem exists_of_isContinued {t : Text} (h : isContinued t = true) :
    ∃ s, t = s ++ [backslash] ∧ isContinued s = false := by
  cases t using List.reverseRecOn with
  | nil => cases h
  | append_singleton s c =>
      by_cases hc : c = backslash
      · subst hc
        rw [isContinued_concat_backslash, Bool.not_eq_true'] at h
        exact ⟨s, rfl, h⟩
      · rw [isContinued_concat_of_ne hc] at h
        cases h

theorem keyLength_escape (c : Nat) (t : Text) : keyLength (backslash :: c :: t) = keyLength t + 2 := by
  rw [keyLength, if_pos rfl]

theorem keyLength_append {key : Text} (hkey : NoSeparator key) (hclosed : isContinued key = false)
    (t : Text) : keyLength (key ++ t) = keyLength t + key.length := by
  induction hlength : key.length using Nat.strongRecOn generalizing key with
  | ind n ih =>
      rcases closed_cases hclosed with rfl | ⟨c, rest, rfl, hc, hrest⟩ | ⟨c, rest, rfl, hrest⟩
      · rw [← hlength]
        rfl
      · have hsolid : isSeparator c = false := hkey [] c rest rfl rfl
        have htail := hkey.of_append (s := [c]) (isContinued_singleton hc)
        rw [List.length_cons] at hlength
        rw [List.cons_append, Written.keyLength_cons hc hsolid,
          ih rest.length (by omega) htail hrest rfl]
        omega
      · have htail := hkey.of_append (s := [backslash, c]) (isContinued_pair c)
        rw [List.length_cons, List.length_cons] at hlength
        rw [List.cons_append, List.cons_append, keyLength_escape,
          ih rest.length (by omega) htail hrest rfl]
        omega

/-- What is in front of a closing backslash is divided as it is without it. -/
theorem keyLength_of_noSeparator {key : Text} (hkey : NoSeparator key) :
    keyLength key = key.length := by
  cases hclosed : isContinued key with
  | false =>
      have hlength := keyLength_append hkey hclosed []
      rw [List.append_nil] at hlength
      rw [hlength]
      exact Nat.zero_add key.length
  | true =>
      obtain ⟨front, rfl, hfront⟩ := exists_of_isContinued hclosed
      have hsolid : NoSeparator front := by
        rintro before c after rfl hbefore
        exact hkey before c (after ++ [backslash]) (by simp) hbefore
      rw [keyLength_append hsolid hfront, List.length_append, Nat.add_comm]
      rfl

theorem keyLength_separator {key : Text} {c : Nat} (hkey : NoSeparator key)
    (hclosed : isContinued key = false) (hc : isSeparator c = true) (t : Text) :
    keyLength (key ++ c :: t) = key.length := by
  rw [keyLength_append hkey hclosed, keyLength_eq_zero hc, Nat.zero_add]

theorem trimStart_front {p : Nat → Bool} {front t : Text} (hfront : ∀ c ∈ front, p c = true)
    (ht : ∀ c ∈ t.head?, p c = false) : Text.trimStart p (front ++ t) = t := by
  rw [Text.trimStart_append_left hfront, Text.trimStart_eq_self ht]

theorem isSeparator_iff {c : Nat} :
    isSeparator c = true ↔ (c = '=' ∨ c = ':') ∨ isGap c = true := by
  simp [isSeparator]

theorem isGap_of_not_isSeparator {c : Nat} (hc : isSeparator c = false) : isGap c = false := by
  simp only [isSeparator, Bool.or_eq_false_iff] at hc
  exact hc.2

theorem isGap_sign {c : Nat} (hc : c = '=' ∨ c = ':') : isGap c = false := by
  rcases hc with rfl | rfl <;> rfl

theorem valueAfter_of_not_isSeparator {t value : Text} (ht : Text.trimStart isGap t = value)
    (hvalue : ∀ c ∈ value.head?, isSeparator c = false) : valueAfter t = value := by
  subst ht
  rw [valueAfter]
  split
  · next hnil => exact hnil.symm
  · next c rest hcons =>
    have hc : ¬ (c = '=' ∨ c = ':') := by
      intro hsign
      have hsep := hvalue c (by rw [hcons]; rfl)
      rw [isSeparator_iff.mpr (Or.inl hsign)] at hsep
      cases hsep
    rw [if_neg hc, hcons]

theorem Divides.splitEntry_eq {line key value : Text} (h : Divides line key value) :
    splitEntry line = (key, value) := by
  cases h with
  | whole hkey =>
      rw [splitEntry, keyLength_of_noSeparator hkey, List.take_length, List.drop_length]
      rfl
  | @sign _ before after _ c hkey hclosed hbefore hc hafter hvalue =>
      have hlength : keyLength (key ++ (before ++ c :: (after ++ value))) = key.length := by
        cases before with
        | nil => exact keyLength_separator hkey hclosed (isSeparator_iff.mpr (Or.inl hc)) _
        | cons d before =>
            have hd : isGap d = true := hbefore d (List.mem_cons_self ..)
            exact keyLength_separator hkey hclosed (isSeparator_iff.mpr (Or.inr hd)) _
      have hsign : ∀ d ∈ (c :: (after ++ value)).head?, isGap d = false := by
        rintro d ⟨⟩
        exact isGap_sign hc
      rw [splitEntry, hlength, List.take_left, List.drop_left,
        valueAfter_eq (trimStart_front hbefore hsign) hc, trimStart_front hafter hvalue]
  | @gap _ gap _ hkey hclosed hgap hne hvalue =>
      have hlength : keyLength (key ++ (gap ++ value)) = key.length := by
        cases gap with
        | nil => exact absurd rfl hne
        | cons d gap =>
            have hd : isGap d = true := hgap d (List.mem_cons_self ..)
            exact keyLength_separator hkey hclosed (isSeparator_iff.mpr (Or.inr hd)) _
      have hsolid : ∀ c ∈ value.head?, isGap c = false := fun c hc =>
        isGap_of_not_isSeparator (hvalue c hc)
      rw [splitEntry, hlength, List.take_left, List.drop_left,
        valueAfter_of_not_isSeparator (trimStart_front hgap hsolid) hvalue]

/-! ## Every line is divided -/

theorem NoSeparator.append {s t : Text} (hs : NoSeparator s) (hclosed : isContinued s = false)
    (ht : NoSeparator t) : NoSeparator (s ++ t) := by
  intro before c after heq hbefore
  rcases place_of_append heq with ⟨front, rfl, hrest⟩ | ⟨behind, hfirst, -⟩
  · rw [isContinued_append hclosed] at hbefore
    exact ht front c after hrest hbefore
  · exact hs before c behind hfirst hbefore

theorem noSeparator_singleton {c : Nat} (hc : isSeparator c = false) : NoSeparator [c] := by
  intro before d after heq _
  have hd : d ∈ [c] := by rw [heq]; simp
  rwa [List.mem_singleton.mp hd]

theorem noSeparator_pair (c : Nat) : NoSeparator [backslash, c] := by
  intro before d after heq hbefore
  match before with
  | [] =>
      obtain ⟨rfl, -⟩ := List.cons.inj heq
      rfl
  | [e] =>
      obtain ⟨rfl, -⟩ := List.cons.inj heq
      cases hbefore
  | _ :: _ :: before => simp at heq

/-- The line falls into a key and what its first separator begins. -/
def HasKey (line : Text) : Prop :=
  ∃ key rest, line = key ++ rest ∧ NoSeparator key ∧
    (rest = [] ∨ isContinued key = false ∧ ∃ c behind, rest = c :: behind ∧ isSeparator c = true)

theorem HasKey.append {s t : Text} (hs : NoSeparator s) (hclosed : isContinued s = false)
    (h : HasKey t) : HasKey (s ++ t) := by
  obtain ⟨key, rest, rfl, hkey, hrest⟩ := h
  refine ⟨s ++ key, rest, (List.append_assoc ..).symm, hs.append hclosed hkey, ?_⟩
  rwa [isContinued_append hclosed]

theorem hasKey (line : Text) : HasKey line := by
  induction line using keyLength.induct with
  | case1 => exact ⟨[], [], rfl, noSeparator_nil, Or.inl rfl⟩
  | case2 c hc => exact ⟨[], [c], rfl, noSeparator_nil, Or.inr ⟨rfl, c, [], rfl, hc⟩⟩
  | case3 c hc => exact ⟨[c], [], rfl, noSeparator_singleton (by simpa using hc), Or.inl rfl⟩
  | case4 d rest ih => exact HasKey.append (noSeparator_pair d) (isContinued_pair d) ih
  | case5 c d rest _ hc =>
      exact ⟨[], c :: d :: rest, rfl, noSeparator_nil, Or.inr ⟨rfl, c, d :: rest, rfl, hc⟩⟩
  | case6 c d rest hne hc ih =>
      have hsolid : NoSeparator [c] := noSeparator_singleton (by simpa using hc)
      exact HasKey.append hsolid (isContinued_singleton hne) ih

/-- A text up to the first character outside a class. -/
theorem exists_front (p : Nat → Bool) (t : Text) :
    ∃ front rest, t = front ++ rest ∧ (∀ c ∈ front, p c = true) ∧ ∀ c ∈ rest.head?, p c = false := by
  refine ⟨t.takeWhile p, t.dropWhile p, List.takeWhile_append_dropWhile.symm,
    fun c hc => List.mem_takeWhile_imp hc, fun c hc => ?_⟩
  have hhead := List.head?_dropWhile_not p t
  rwa [hc] at hhead

theorem exists_divides (line : Text) : ∃ key value, Divides line key value := by
  obtain ⟨key, rest, rfl, hkey, rfl | ⟨hclosed, c, behind, rfl, hc⟩⟩ := hasKey line
  · exact ⟨key, [], by rw [List.append_nil]; exact .whole hkey⟩
  obtain ⟨gap, rest, hrest, hgap, hsolid⟩ := exists_front isGap (c :: behind)
  rw [hrest]
  by_cases hsep : ∀ d ∈ rest.head?, isSeparator d = false
  · refine ⟨key, rest, .gap hkey hclosed hgap ?_ hsep⟩
    rintro rfl
    have hfirst := hsep c (by rw [← List.nil_append rest, ← hrest]; rfl)
    rw [hc] at hfirst
    cases hfirst
  · match rest with
    | [] => exact absurd (by simp) hsep
    | d :: rest =>
        have hd : isSeparator d = true := by simpa using hsep
        have hsign : d = '=' ∨ d = ':' := by
          refine (isSeparator_iff.mp hd).resolve_right ?_
          rw [hsolid d rfl]
          exact Bool.false_ne_true
        obtain ⟨after, value, rfl, hafter, hvalue⟩ := exists_front isGap rest
        exact ⟨key, value, .sign hkey hclosed hgap hsign hafter hvalue⟩

theorem divides_iff {line key value : Text} :
    Divides line key value ↔ splitEntry line = (key, value) := by
  refine ⟨Divides.splitEntry_eq, fun h => ?_⟩
  obtain ⟨key', value', hdivides⟩ := exists_divides line
  have heq := hdivides.splitEntry_eq
  rw [h] at heq
  cases heq
  exact hdivides

/-! ## Escapes -/

/-- What a text with escapes stands for. Behind `u` come the four characters of a code; with fewer
left, it stands for itself. -/
inductive Decodes : (raw out : Text) → Prop
  | nil : Decodes [] []
  | last : Decodes [backslash] [backslash]
  | plain {raw out : Text} {c : Nat} (hc : c ≠ backslash) (h : Decodes raw out) :
      Decodes (c :: raw) (c :: out)
  | escape {raw out : Text} {c : Nat} (hc : c ≠ 'u') (h : Decodes raw out) :
      Decodes (backslash :: c :: raw) (escaped c :: out)
  | short {raw out : Text} (hshort : raw.length < 4) (h : Decodes raw out) :
      Decodes (backslash :: 'u' :: raw) ('u' :: out)
  | code {code raw out : Text} {c : Nat} (hlength : code.length = 4) (hcode : characterOf code = .ok c)
      (h : Decodes raw out) : Decodes (backslash :: 'u' :: (code ++ raw)) (c :: out)

theorem unescape_short {raw : Text} (h : raw.length < 4) :
    unescape (backslash :: 'u' :: raw) = (unescape raw).map (('u' : Nat) :: ·) := by
  match raw with
  | [] => rfl
  | [_] => rfl
  | [_, _] => rfl
  | [_, _, _] => rfl
  | _ :: _ :: _ :: _ :: raw =>
      simp only [List.length_cons] at h
      omega

theorem unescape_code {code : Text} (hlength : code.length = 4) (raw : Text) :
    unescape (backslash :: 'u' :: (code ++ raw)) =
      characterOf code >>= fun c => (unescape raw).map (c :: ·) := by
  match code with
  | [w, x, y, z] => rfl

theorem unescape_character {code : Text} {c : Nat} (hlength : code.length = 4)
    (hcode : characterOf code = .ok c) (raw : Text) :
    unescape (backslash :: 'u' :: (code ++ raw)) = (unescape raw).map (c :: ·) := by
  rw [unescape_code hlength, hcode]
  rfl

/-- Induction along what unescaping takes from a text at a time. -/
@[elab_as_elim]
theorem raw_induction {motive : Text → Prop} (nil : motive []) (last : motive [backslash])
    (plain : ∀ c raw, c ≠ backslash → motive raw → motive (c :: raw))
    (escape : ∀ (c : Nat) (raw : Text), c ≠ 'u' → motive raw → motive (backslash :: c :: raw))
    (short : ∀ raw, raw.length < 4 → motive raw → motive (backslash :: 'u' :: raw))
    (code : ∀ code raw, code.length = 4 → motive raw → motive (backslash :: 'u' :: (code ++ raw)))
    (raw : Text) : motive raw := by
  induction hsize : raw.length using Nat.strongRecOn generalizing raw with
  | ind n ih =>
      subst hsize
      match raw with
      | [] => exact nil
      | c :: raw =>
          by_cases hc : c = backslash
          · subst hc
            match raw with
            | [] => exact last
            | d :: raw =>
                have hrest : ∀ rest : Text, rest.length ≤ raw.length → motive rest :=
                  fun rest hle => ih rest.length (by simp only [List.length_cons]; omega) rest rfl
                by_cases hd : d = 'u'
                · subst hd
                  by_cases hshort : raw.length < 4
                  · exact short raw hshort (hrest raw le_rfl)
                  · have hlength : (raw.take 4).length = 4 := by rw [List.length_take]; omega
                    have hafter : motive (raw.drop 4) := hrest _ (by rw [List.length_drop]; omega)
                    rw [← List.take_append_drop 4 raw]
                    exact code (raw.take 4) (raw.drop 4) hlength hafter
                · exact escape d raw hd (hrest raw le_rfl)
          · exact plain c raw hc (ih raw.length (by simp only [List.length_cons]; omega) raw rfl)

theorem Decodes.unescape_eq {raw out : Text} (h : Decodes raw out) : unescape raw = .ok out := by
  induction h with
  | nil => rfl
  | last => rfl
  | plain hc _ ih => rw [Written.unescape_cons hc, ih]; rfl
  | escape hc _ ih => rw [Written.unescape_escape hc, ih]; rfl
  | short hshort _ ih => rw [unescape_short hshort, ih]; rfl
  | code hlength hcode _ ih => rw [unescape_character hlength hcode, ih]; rfl

theorem decodes_of_unescape {raw out : Text} (h : unescape raw = .ok out) : Decodes raw out := by
  induction raw using raw_induction generalizing out with
  | nil =>
      obtain rfl := Except.ok.inj h
      exact .nil
  | last =>
      obtain rfl := Except.ok.inj h
      exact .last
  | plain c raw hc ih =>
      rw [Written.unescape_cons hc] at h
      obtain ⟨out, hout, rfl⟩ := map_eq_ok_iff.mp h
      exact .plain hc (ih hout)
  | escape c raw hc ih =>
      rw [Written.unescape_escape hc] at h
      obtain ⟨out, hout, rfl⟩ := map_eq_ok_iff.mp h
      exact .escape hc (ih hout)
  | short raw hshort ih =>
      rw [unescape_short hshort] at h
      obtain ⟨out, hout, rfl⟩ := map_eq_ok_iff.mp h
      exact .short hshort (ih hout)
  | code code raw hlength ih =>
      rw [unescape_code hlength] at h
      obtain ⟨c, hc, h⟩ := bind_eq_ok_iff.mp h
      obtain ⟨out, hout, rfl⟩ := map_eq_ok_iff.mp h
      exact .code hlength hc (ih hout)

theorem decodes_iff {raw out : Text} : Decodes raw out ↔ unescape raw = .ok out :=
  ⟨Decodes.unescape_eq, decodes_of_unescape⟩

/-! ## Entries -/

/-- What is read of a line: the key and the value, each without its escapes. -/
def HasTexts (line : Text) (entry : Text × Text) : Prop :=
  unescape (splitEntry line).1 = .ok entry.1 ∧ unescape (splitEntry line).2 = .ok entry.2

theorem readEntry_eq_ok_iff {line : Text} {entry : Text × Text} :
    readEntry line = .ok entry ↔ HasTexts line entry := by
  constructor
  · intro h
    obtain ⟨value, hvalue, h⟩ := bind_eq_ok_iff.mp h
    obtain ⟨key, hkey, h⟩ := bind_eq_ok_iff.mp h
    obtain rfl := pure_eq_ok_iff.mp h
    exact ⟨hkey, hvalue⟩
  · rintro ⟨hkey, hvalue⟩
    rw [readEntry]
    simp only [hkey, hvalue]
    rfl

/-- Reading gives the entries of the lines, one over the other. -/
theorem read_eq_ok_iff_texts {t : Text} {m : PropertyMap} :
    read t = .ok m ↔
      ∃ entries, List.Forall₂ HasTexts (logicalLines t) entries ∧ m.Collects entries := by
  have htexts : HasTexts = fun line entry => readEntry line = .ok entry := by
    funext line entry
    exact propext readEntry_eq_ok_iff.symm
  simp only [htexts, ← mapM_eq_ok_iff]
  rw [read]
  cases (logicalLines t).mapM readEntry with
  | error fault => simp
  | ok entries => simp [PropertyMap.collects_iff, eq_comm]

theorem read_of_line {t line key value : Text} (hlines : logicalLines t = [line])
    (htexts : HasTexts line (key, value)) : read t = .ok [(key, .text value)] := by
  rw [read, hlines, List.mapM_cons, readEntry_eq_ok_iff.mpr htexts]
  rfl

/-- The entry that a line stands for. -/
inductive Reads (line : Text) : Text × Text → Prop
  | intro {rawKey rawValue key value : Text} (hdivides : Divides line rawKey rawValue)
      (hkey : Decodes rawKey key) (hvalue : Decodes rawValue value) : Reads line (key, value)

theorem reads_iff {line : Text} {entry : Text × Text} :
    Reads line entry ↔ HasTexts line entry := by
  constructor
  · rintro ⟨hdivides, hkey, hvalue⟩
    rw [HasTexts, divides_iff.mp hdivides]
    exact ⟨decodes_iff.mp hkey, decodes_iff.mp hvalue⟩
  · rintro ⟨hkey, hvalue⟩
    exact .intro (divides_iff.mpr rfl) (decodes_iff.mpr hkey) (decodes_iff.mpr hvalue)

theorem read_eq_ok_iff {t : Text} {m : PropertyMap} :
    read t = .ok m ↔ ∃ entries, List.Forall₂ Reads (logicalLines t) entries ∧ m.Collects entries := by
  have hreads : Reads = HasTexts := by
    funext line entry
    exact propext reads_iff
  rw [hreads, read_eq_ok_iff_texts]

end Properties

end ConfigLocator
